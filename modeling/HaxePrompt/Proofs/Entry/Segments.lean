import HaxePrompt.Proofs.Entry.Delimiters
import HaxePrompt.Proofs.Text.Split
import Mathlib.Algebra.Group.Nat.Defs
import Mathlib.Algebra.Ring.Int.Defs

/-! # The segments of a text

A text is read from left to right as a row of segments: single characters of code, and spans,
which are strings and comments.  A span is closed by the first mark that can close it; only at the
end of the text one may stay unclosed.  `Reads segments s` says that the text is made up of these
segments, with the conditions under which each may stand in front of the rest (`Segment.Stands`).

* Every text is read in exactly one way (`exists_reads`, `Reads.unique`).
* The scan counts the brackets among the characters of code and is left inside a block comment
  exactly if the last segment is an unclosed one (`Reads.scan`).
* On its way the depth stays within the length of the text, so that a counter of 32 bits is enough
  for every text shorter than that (`scanWord_eq_scan`).

Together they say when an input goes on on the next line (`isUnclosed_iff_segments`). -/

namespace HaxePrompt.Delimiters

/-! ### Spans -/

inductive Quote where
  | single
  | double
deriving DecidableEq, Repr

def Quote.char : Quote → Char
  | .single => '\''
  | .double => '"'

/-- What a reader takes in as a whole. -/
inductive Span where
  | string (quote : Quote)
  | line
  | block
deriving DecidableEq, Repr

/-- The inside of a string: a backslash takes the next character with it, and no quote stands
alone. -/
inductive Quoted (quote : Char) : Text → Prop where
  | nil : Quoted quote []
  | plain {c : Char} {rest : Text} (hquote : c ≠ quote) (hescape : c ≠ '\\')
      (h : Quoted quote rest) : Quoted quote (c :: rest)
  | escaped {c : Char} {rest : Text} (h : Quoted quote rest) : Quoted quote ('\\' :: c :: rest)

namespace Span

/-- The mark that opens a span. -/
def opening : Span → Text
  | .string quote => [quote.char]
  | .line => "//"
  | .block => "/*"

/-- The mark that closes a span. -/
def closing : Span → Text
  | .string quote => [quote.char]
  | .line => Text.newline
  | .block => "*/"

/-- The text can stand inside the span: the span goes on up to a closing mark right behind it. -/
def Holds : Span → Text → Prop
  | .string quote, body => Quoted quote.char body
  | .line, body => ¬ closing .line <:+: body
  | .block, body => ¬ closing .block <:+: body

/-- The span is not closed in the text. -/
def Runs (span : Span) (s : Text) : Prop :=
  ∀ body rest, span.Holds body → s ≠ body ++ span.closing ++ rest

/-- Where the scan stands inside a span. -/
def mode : Span → Mode
  | .string quote => .quoted quote.char false
  | .line => .lineComment
  | .block => .blockComment

end Span

/-! ### Segments -/

/-- A segment of a text. -/
inductive Segment where
  | code (c : Char)
  | closed (span : Span) (body : Text)
  | unclosed (span : Span) (body : Text)
deriving DecidableEq, Repr

namespace Segment

def text : Segment → Text
  | .code c => [c]
  | .closed span body => span.opening ++ body ++ span.closing
  | .unclosed span body => span.opening ++ body

/-- The segment may stand in front of the rest of a text: no span is opened by a character of code,
a closed span is closed as soon as it can be, and an unclosed one has nothing behind it. -/
def Stands : Segment → Text → Prop
  | .code c, rest => ∀ span : Span, ¬ span.opening <+: c :: rest
  | .closed span body, _ => span.Holds body
  | .unclosed span body, rest => span.Runs body ∧ rest = []

/-- Is it a character of code that opens a bracket? -/
def isOpening : Segment → Bool
  | .code c => c == '\x7b' || c == '(' || c == '['
  | _ => false

/-- Is it a character of code that closes a bracket? -/
def isClosing : Segment → Bool
  | .code c => c == '\x7d' || c == ')' || c == ']'
  | _ => false

end Segment

/-- The text, read from left to right, is this row of segments. -/
inductive Reads : List Segment → Text → Prop where
  | nil : Reads [] []
  | cons {segment : Segment} {segments : List Segment} {rest : Text}
      (hstands : segment.Stands rest) (hrest : Reads segments rest) :
      Reads (segment :: segments) (segment.text ++ rest)

def bracketsOpened (segments : List Segment) : Nat := segments.countP Segment.isOpening

def bracketsClosed (segments : List Segment) : Nat := segments.countP Segment.isClosing

/-! ### Every text can be read -/

/-- The mark of a span is followed by a span that is closed, or by one that runs to the end. -/
theorem Span.closed_or_runs (span : Span) (s : Text) :
    (∃ body rest, span.Holds body ∧ s = body ++ span.closing ++ rest) ∨ span.Runs s := by
  by_cases h : ∃ body rest, span.Holds body ∧ s = body ++ span.closing ++ rest
  · exact Or.inl h
  · right
    intro body rest hbody hs
    exact h ⟨body, rest, hbody, hs⟩

theorem Span.opening_ne_nil (span : Span) : span.opening ≠ [] := by
  rcases span with ⟨_ | _⟩ | _ | _ <;> decide

theorem exists_reads (s : Text) : ∃ segments, Reads segments s := by
  induction hn : s.length using Nat.strong_induction_on generalizing s with
  | _ n ih =>
      by_cases hspan : ∃ span : Span, span.opening <+: s
      · obtain ⟨span, t, rfl⟩ := hspan
        have hopening : 0 < span.opening.length := List.length_pos_iff.mpr span.opening_ne_nil
        rcases span.closed_or_runs t with ⟨body, rest, hbody, rfl⟩ | hruns
        · have hlt : rest.length < n := by
            simp only [List.length_append] at hn
            omega
          obtain ⟨segments, hsegments⟩ := ih rest.length hlt rest rfl
          refine ⟨.closed span body :: segments, ?_⟩
          have htext : span.opening ++ (body ++ span.closing ++ rest) =
              (Segment.closed span body).text ++ rest := by
            simp only [Segment.text, List.append_assoc]
          rw [htext]
          exact .cons hbody hsegments
        · refine ⟨[.unclosed span t], ?_⟩
          have htext : span.opening ++ t = (Segment.unclosed span t).text ++ [] := by
            simp only [Segment.text, List.append_nil]
          rw [htext]
          exact .cons ⟨hruns, rfl⟩ .nil
      · cases s with
        | nil => exact ⟨[], .nil⟩
        | cons c rest =>
            have hlt : rest.length < n := by
              simp only [List.length_cons] at hn
              omega
            obtain ⟨segments, hsegments⟩ := ih rest.length hlt rest rfl
            refine ⟨.code c :: segments, ?_⟩
            have hstands : (Segment.code c).Stands rest := fun span h => hspan ⟨span, h⟩
            exact .cons hstands hsegments

/-! ### It is read in one way only -/

/-- The marks that open spans begin no other span. -/
theorem Span.opening_inj {one two : Span} {s t : Text} (h : one.opening ++ s = two.opening ++ t) :
    one = two ∧ s = t := by
  have hone : one = two := by
    rcases one with ⟨_ | _⟩ | _ | _ <;> rcases two with ⟨_ | _⟩ | _ | _ <;>
      simp_all [opening, Quote.char]
  subst hone
  exact ⟨rfl, List.append_cancel_left h⟩

/-- A string ends at the first quote that is not escaped. -/
theorem Quoted.unique {quote : Char} (hescape : quote ≠ '\\') {one two s t : Text}
    (hone : Quoted quote one) (htwo : Quoted quote two)
    (h : one ++ quote :: s = two ++ quote :: t) : one = two ∧ s = t := by
  induction hone generalizing two with
  | nil =>
      cases htwo with
      | nil => exact ⟨rfl, (List.cons.inj h).2⟩
      | plain hquote _ _ => exact absurd (List.cons.inj h).1.symm hquote
      | escaped _ => exact absurd (List.cons.inj h).1 hescape
  | plain hquote hplain _ ih =>
      cases htwo with
      | nil => exact absurd (List.cons.inj h).1 hquote
      | plain _ _ htwo =>
          obtain ⟨rfl, hrest⟩ := List.cons.inj h
          obtain ⟨rfl, hst⟩ := ih htwo hrest
          exact ⟨rfl, hst⟩
      | escaped _ => exact absurd (List.cons.inj h).1 hplain
  | escaped _ ih =>
      cases htwo with
      | nil => exact absurd (List.cons.inj h).1.symm hescape
      | plain _ hplain _ => exact absurd (List.cons.inj h).1.symm hplain
      | escaped htwo =>
          obtain ⟨_, htail⟩ := List.cons.inj h
          obtain ⟨rfl, hrest⟩ := List.cons.inj htail
          obtain ⟨rfl, hst⟩ := ih htwo hrest
          exact ⟨rfl, hst⟩

theorem Quote.char_ne_backslash (quote : Quote) : quote.char ≠ '\\' := by
  cases quote <;> decide

/-- A comment is cut where its closing mark first stands. -/
theorem comment_unique {mark one two s t : Text} (hne : mark ≠ []) (hu : Text.Unbordered mark)
    (hone : ¬ mark <:+: one) (htwo : ¬ mark <:+: two) (h : one ++ mark ++ s = two ++ mark ++ t) :
    one = two ∧ s = t := by
  have hcut := Text.cut_append hne hu hone s
  rw [h, Text.cut_append hne hu htwo t] at hcut
  obtain ⟨rfl, rfl⟩ := Prod.mk.inj (Option.some.inj hcut)
  exact ⟨rfl, rfl⟩

theorem Span.holds_unique {span : Span} {one two s t : Text} (hone : span.Holds one)
    (htwo : span.Holds two) (h : one ++ span.closing ++ s = two ++ span.closing ++ t) :
    one = two ∧ s = t := by
  cases span with
  | string quote =>
      simp only [closing, List.append_assoc, List.singleton_append] at h
      exact Quoted.unique quote.char_ne_backslash hone htwo h
  | line => exact comment_unique (by decide) Text.unbordered_newline hone htwo h
  | block =>
      have hu : Text.Unbordered (closing .block) :=
        Text.unbordered_concat (show '/' ∉ ['*'] by decide)
      exact comment_unique (by decide) hu hone htwo h

theorem Segment.stands_unique {one two : Segment} {s t : Text} (hone : one.Stands s)
    (htwo : two.Stands t) (h : one.text ++ s = two.text ++ t) : one = two ∧ s = t := by
  -- a character of code stands where no span is opened
  have hcode : ∀ {c : Char} {rest : Text} {span : Span} {more : Text},
      (Segment.code c).Stands rest → c :: rest ≠ span.opening ++ more := by
    intro c rest span more hstands heq
    exact hstands span ⟨more, heq.symm⟩
  cases one with
  | code c =>
      cases two with
      | code d =>
          obtain ⟨rfl, rfl⟩ := List.cons.inj h
          exact ⟨rfl, rfl⟩
      | closed span body =>
          simp only [text, List.append_assoc] at h
          exact absurd h (hcode hone)
      | unclosed span body =>
          simp only [text, List.append_assoc] at h
          exact absurd h (hcode hone)
  | closed span body =>
      simp only [text, List.append_assoc] at h
      cases two with
      | code d => exact absurd h.symm (hcode htwo)
      | closed span' body' =>
          simp only [List.append_assoc] at h
          obtain ⟨rfl, hbody⟩ := Span.opening_inj h
          simp only [← List.append_assoc] at hbody
          obtain ⟨rfl, rfl⟩ := Span.holds_unique hone htwo hbody
          exact ⟨rfl, rfl⟩
      | unclosed span' body' =>
          obtain ⟨hruns, rfl⟩ := htwo
          simp only [List.append_nil] at h
          obtain ⟨rfl, hbody⟩ := Span.opening_inj h
          rw [← List.append_assoc] at hbody
          exact absurd hbody.symm (hruns body s hone)
  | unclosed span body =>
      obtain ⟨hruns, rfl⟩ := hone
      simp only [text, List.append_nil] at h
      cases two with
      | code d => exact absurd h.symm (hcode htwo)
      | closed span' body' =>
          simp only [List.append_assoc] at h
          obtain ⟨rfl, hbody⟩ := Span.opening_inj h
          rw [← List.append_assoc] at hbody
          exact absurd hbody (hruns body' t htwo)
      | unclosed span' body' =>
          obtain ⟨_, rfl⟩ := htwo
          simp only [List.append_nil] at h
          obtain ⟨rfl, rfl⟩ := Span.opening_inj h
          exact ⟨rfl, rfl⟩

theorem Segment.text_ne_nil (segment : Segment) : segment.text ≠ [] := by
  cases segment <;> simp [text, Span.opening_ne_nil]

theorem Reads.unique {one two : List Segment} {s : Text} (hone : Reads one s)
    (htwo : Reads two s) : one = two := by
  induction hone generalizing two with
  | nil =>
      generalize hs : ([] : Text) = s at htwo
      cases htwo with
      | nil => rfl
      | @cons segment _ rest _ _ =>
          exact absurd (List.append_eq_nil_iff.mp hs.symm).1 segment.text_ne_nil
  | @cons segment segments rest hstands _ ih =>
      generalize hs : segment.text ++ rest = s at htwo
      cases htwo with
      | nil => exact absurd (List.append_eq_nil_iff.mp hs).1 segment.text_ne_nil
      | cons hstands' hrest' =>
          obtain ⟨rfl, rfl⟩ := Segment.stands_unique hstands hstands' hs
          rw [ih hrest']

/-! ### What the scan makes of the segments -/

theorem scan_opening (span : Span) (depth : Int) (s : Text) :
    scan .code depth (span.opening ++ s) = scan span.mode depth s := by
  cases span with
  | string quote => cases quote <;> simp [Span.opening, Span.mode, Quote.char, scan]
  | line => rfl
  | block => rfl

theorem scan_of_quoted {quote : Char} {body : Text} (h : Quoted quote body) (depth : Int)
    (s : Text) :
    scan (.quoted quote false) depth (body ++ s) = scan (.quoted quote false) depth s := by
  induction h with
  | nil => rfl
  | plain hquote hescape _ ih =>
      rw [List.cons_append, scan, if_neg hescape, if_neg hquote, ih]
  | escaped _ ih =>
      rw [List.cons_append, List.cons_append, scan, if_pos rfl, scan, ih]

theorem scan_of_line {body : Text} (h : '\n' ∉ body) (depth : Int) (s : Text) :
    scan .lineComment depth (body ++ s) = scan .lineComment depth s := by
  induction body with
  | nil => rfl
  | cons c body ih =>
      obtain ⟨hc, hbody⟩ := not_or.mp (mt List.mem_cons.mpr h)
      rw [List.cons_append, scan, if_neg (Ne.symm hc), ih hbody]

/-- Nothing closes a block comment before a text that does not complete a mark. -/
theorem scan_of_block {body : Text} (h : ¬ Span.closing .block <:+: body) (depth : Int) {s : Text}
    (hs : s.head? ≠ some '/') :
    scan .blockComment depth (body ++ s) = scan .blockComment depth s := by
  induction body with
  | nil => rfl
  | cons c body ih =>
      have hbody : ¬ Span.closing .block <:+: body := fun hin => h (List.infix_cons hin)
      have hmark : ∀ rest, c = '*' → body ++ s = '/' :: rest → False := by
        rintro rest rfl hrest
        cases body with
        | nil =>
            rw [List.nil_append] at hrest
            rw [hrest] at hs
            exact hs rfl
        | cons d body =>
            obtain ⟨rfl, _⟩ := List.cons.inj hrest
            exact h ⟨[], body, rfl⟩
      rw [List.cons_append, scan.eq_9 _ _ _ hmark, ih hbody]

theorem scan_closed {span : Span} {body : Text} (h : span.Holds body) (depth : Int) (s : Text) :
    scan span.mode depth (body ++ span.closing ++ s) = scan .code depth s := by
  rw [List.append_assoc]
  cases span with
  | string quote =>
      change scan (.quoted quote.char false) depth (body ++ quote.char :: s) = _
      rw [scan_of_quoted h, scan, if_neg quote.char_ne_backslash, if_pos rfl]
  | line =>
      have hbody : '\n' ∉ body := mt (List.singleton_infix_iff _ _).mpr h
      change scan .lineComment depth (body ++ '\n' :: s) = _
      rw [scan_of_line hbody, scan, if_pos rfl]
  | block =>
      change scan .blockComment depth (body ++ '*' :: '/' :: s) = _
      rw [scan_of_block h depth (by simp)]
      rfl

theorem scan_of_runs_string {quote : Quote} (depth : Int) :
    ∀ {s : Text}, (Span.string quote).Runs s →
    ∃ escaped, scan (.quoted quote.char false) depth s = (.quoted quote.char escaped, depth)
  | [], _ => ⟨false, rfl⟩
  | c :: s, h => by
      have hquote : c ≠ quote.char := by
        rintro rfl
        exact h [] s .nil rfl
      by_cases hescape : c = '\\'
      · subst hescape
        cases s with
        | nil => exact ⟨true, rfl⟩
        | cons d s =>
            have hs : (Span.string quote).Runs s := by
              rintro body rest hbody rfl
              exact h ('\\' :: d :: body) rest (.escaped hbody) rfl
            rw [scan, if_pos rfl, scan]
            exact scan_of_runs_string depth hs
      · have hs : (Span.string quote).Runs s := by
          rintro body rest hbody rfl
          exact h (c :: body) rest (.plain hquote hescape hbody) rfl
        rw [scan, if_neg hescape, if_neg hquote]
        exact scan_of_runs_string depth hs

theorem Span.not_infix_of_runs {span : Span} {s : Text}
    (hcomment : ∀ body, ¬ span.closing <:+: body → span.Holds body) (h : span.Runs s) :
    ¬ span.closing <:+: s := by
  intro hin
  have hne : span.closing ≠ [] := by rcases span with ⟨_ | _⟩ | _ | _ <;> decide
  obtain ⟨body, rest, hs, hbody⟩ := Text.exists_first hne hin
  exact h body rest (hcomment body hbody) hs

/-- A span that is not closed keeps the depth, and leaves the scan in a block comment exactly if it
is one. -/
theorem scan_unclosed {span : Span} {s : Text} (h : span.Runs s) (depth : Int) :
    (scan span.mode depth s).2 = depth ∧
      ((scan span.mode depth s).1 = .blockComment ↔ span = .block) := by
  cases span with
  | string quote =>
      obtain ⟨escaped, hscan⟩ := scan_of_runs_string depth h
      have hmode : (Span.string quote).mode = .quoted quote.char false := rfl
      rw [hmode, hscan]
      simp
  | line =>
      have hmark : ¬ Span.closing .line <:+: s := Span.not_infix_of_runs (fun _ hbody => hbody) h
      have hs : '\n' ∉ s := mt (List.singleton_infix_iff _ _).mpr hmark
      have hscan := scan_of_line hs depth []
      rw [List.append_nil] at hscan
      have hmode : Span.line.mode = .lineComment := rfl
      rw [hmode, hscan]
      simp [scan]
  | block =>
      have hs : ¬ Span.closing .block <:+: s := Span.not_infix_of_runs (fun _ hbody => hbody) h
      have hscan := scan_of_block hs depth (show ([] : Text).head? ≠ some '/' by simp)
      rw [List.append_nil] at hscan
      have hmode : Span.block.mode = .blockComment := rfl
      rw [hmode, hscan]
      simp [scan]

theorem scan_code {c : Char} {rest : Text} (h : (Segment.code c).Stands rest) (depth : Int) :
    scan .code depth (c :: rest) = scan .code (depth + weight c) rest := by
  have hline : ∀ rest', c = '/' → rest = '/' :: rest' → False := by
    rintro rest' rfl rfl
    exact h .line ⟨rest', rfl⟩
  have hblock : ∀ rest', c = '/' → rest = '*' :: rest' → False := by
    rintro rest' rfl rfl
    exact h .block ⟨rest', rfl⟩
  have hquote : ¬ (c = '"' ∨ c = '\'') := by
    rintro (rfl | rfl)
    · exact h (.string .double) ⟨rest, rfl⟩
    · exact h (.string .single) ⟨rest, rfl⟩
  rw [scan.eq_4 _ _ _ hline hblock, if_neg hquote]

theorem weight_eq (c : Char) :
    weight c = (if (Segment.code c).isOpening = true then 1 else 0) -
      (if (Segment.code c).isClosing = true then 1 else 0) := by
  have hopening : (Segment.code c).isOpening = true ↔ c = '\x7b' ∨ c = '(' ∨ c = '[' := by
    simp [Segment.isOpening, or_assoc]
  have hclosing : (Segment.code c).isClosing = true ↔ c = '\x7d' ∨ c = ')' ∨ c = ']' := by
    simp [Segment.isClosing, or_assoc]
  unfold weight
  simp only [hopening, hclosing]
  by_cases hopen : c = '\x7b' ∨ c = '(' ∨ c = '['
  · have hclose : ¬ (c = '\x7d' ∨ c = ')' ∨ c = ']') := by
      rcases hopen with rfl | rfl | rfl <;> decide
    rw [if_pos hopen, if_pos hopen, if_neg hclose]
    rfl
  · rw [if_neg hopen, if_neg hopen]
    split <;> rfl

/-- The brackets opened less those closed. -/
def balance (segments : List Segment) : Int := bracketsOpened segments - bracketsClosed segments

theorem balance_code (c : Char) (segments : List Segment) :
    balance (.code c :: segments) = weight c + balance segments := by
  unfold balance bracketsOpened bracketsClosed
  rw [weight_eq, List.countP_cons, List.countP_cons]
  split <;> split <;> omega

theorem balance_closed (span : Span) (body : Text) (segments : List Segment) :
    balance (.closed span body :: segments) = balance segments := by
  unfold balance bracketsOpened bracketsClosed
  rw [List.countP_cons_of_neg Bool.false_ne_true, List.countP_cons_of_neg Bool.false_ne_true]

theorem getLast?_cons_eq_some_iff {segment last : Segment} (h : segment ≠ last)
    (segments : List Segment) :
    (segment :: segments).getLast? = some last ↔ segments.getLast? = some last := by
  cases segments with
  | nil => simp [h]
  | cons next rest => rw [List.getLast?_cons_cons]

/-- The depth at the end of a text is that at its beginning with the balance of its segments, and
the scan is left in a block comment exactly if the last segment is an unclosed one. -/
theorem Reads.scan {segments : List Segment} {s : Text} (h : Reads segments s) (depth : Int) :
    (Delimiters.scan .code depth s).2 = depth + balance segments ∧
      ((Delimiters.scan .code depth s).1 = .blockComment ↔
        ∃ body, segments.getLast? = some (.unclosed .block body)) := by
  induction h generalizing depth with
  | nil => simp [Delimiters.scan, balance, bracketsOpened, bracketsClosed]
  | @cons segment segments rest hstands hrest ih =>
      cases segment with
      | code c =>
          obtain ⟨hdepth, hmode⟩ := ih (depth + weight c)
          have hscan : Delimiters.scan .code depth ((Segment.code c).text ++ rest) =
              Delimiters.scan .code (depth + weight c) rest := scan_code hstands depth
          rw [hscan, hdepth, hmode, balance_code]
          refine ⟨by omega, exists_congr fun body => ?_⟩
          exact (getLast?_cons_eq_some_iff (by simp) segments).symm
      | closed span body =>
          obtain ⟨hdepth, hmode⟩ := ih depth
          have hscan : Delimiters.scan .code depth ((Segment.closed span body).text ++ rest) =
              Delimiters.scan .code depth rest := by
            rw [Segment.text, List.append_assoc, List.append_assoc, scan_opening,
              ← List.append_assoc, scan_closed hstands]
          rw [hscan, hdepth, hmode, balance_closed]
          refine ⟨rfl, exists_congr fun body => ?_⟩
          exact (getLast?_cons_eq_some_iff (by simp) segments).symm
      | unclosed span body =>
          obtain ⟨hruns, rfl⟩ := hstands
          obtain rfl : segments = [] := hrest.unique .nil
          obtain ⟨hdepth, hmode⟩ := scan_unclosed hruns depth
          have hscan : Delimiters.scan .code depth ((Segment.unclosed span body).text ++ []) =
              Delimiters.scan span.mode depth body := by
            rw [Segment.text, List.append_nil, scan_opening]
          rw [hscan, hdepth, hmode]
          constructor
          · simp [balance, bracketsOpened, bracketsClosed, Segment.isOpening, Segment.isClosing]
          · simp

/-! ### The depth fits into a word -/

/-- Is the depth the value of a word of 32 bits? -/
def FitsWord (depth : Int) : Prop := -2 ^ 31 ≤ depth ∧ depth < 2 ^ 31

instance (depth : Int) : Decidable (FitsWord depth) := inferInstanceAs (Decidable (_ ∧ _))

/-- The scan with a counter of 32 bits, which stops where the next depth does not fit into it. -/
def scanWord : Mode → Int → Text → Option (Mode × Int)
  | mode, depth, [] => some (mode, depth)
  | .code, depth, '/' :: '/' :: rest => scanWord .lineComment depth rest
  | .code, depth, '/' :: '*' :: rest => scanWord .blockComment depth rest
  | .code, depth, c :: rest =>
    if c = '"' ∨ c = '\'' then scanWord (.quoted c false) depth rest
    else if FitsWord (depth + weight c) then scanWord .code (depth + weight c) rest
    else none
  | .quoted quote true, depth, _ :: rest => scanWord (.quoted quote false) depth rest
  | .quoted quote false, depth, c :: rest =>
    if c = '\\' then scanWord (.quoted quote true) depth rest
    else if c = quote then scanWord .code depth rest
    else scanWord (.quoted quote false) depth rest
  | .lineComment, depth, c :: rest =>
    if c = '\n' then scanWord .code depth rest else scanWord .lineComment depth rest
  | .blockComment, depth, '*' :: '/' :: rest => scanWord .code depth rest
  | .blockComment, depth, _ :: rest => scanWord .blockComment depth rest

/-- Whatever the characters of the text do to the depth, it fits into a word. -/
def HasRoom (depth : Int) (s : Text) : Prop :=
  -2 ^ 31 + s.length ≤ depth ∧ depth + s.length < 2 ^ 31

theorem HasRoom.tail {depth : Int} {c : Char} {s : Text} (h : HasRoom depth (c :: s)) :
    HasRoom depth s := by
  unfold HasRoom at h ⊢
  rw [List.length_cons] at h
  omega

theorem HasRoom.add_weight {depth : Int} {c : Char} {s : Text} (h : HasRoom depth (c :: s)) :
    HasRoom (depth + weight c) s := by
  have hweight : weight c = 1 ∨ weight c = -1 ∨ weight c = 0 := by
    unfold weight
    split
    · exact Or.inl rfl
    · split <;> simp
  unfold HasRoom at h ⊢
  rw [List.length_cons] at h
  omega

theorem HasRoom.fitsWord {depth : Int} {s : Text} (h : HasRoom depth s) : FitsWord depth := by
  unfold HasRoom at h
  unfold FitsWord
  omega

/-- With enough room the counter never stops the scan. -/
theorem scanWord_eq_scan {mode : Mode} {depth : Int} {s : Text} (h : HasRoom depth s) :
    scanWord mode depth s = some (scan mode depth s) := by
  fun_induction Delimiters.scan mode depth s with
  | case1 mode depth => rfl
  | case2 depth rest ih => rw [scanWord, ih h.tail.tail]
  | case3 depth rest ih => rw [scanWord, ih h.tail.tail]
  | case4 depth c rest hline hblock hquote ih =>
      rw [scanWord.eq_4 _ _ _ hline hblock, if_pos hquote, ih h.tail]
  | case5 depth c rest hline hblock hquote ih =>
      have hroom := h.add_weight
      rw [scanWord.eq_4 _ _ _ hline hblock, if_neg hquote, if_pos hroom.fitsWord, ih hroom]
  | case6 quote depth c rest ih => rw [scanWord, ih h.tail]
  | case7 quote depth rest ih => rw [scanWord, if_pos rfl, ih h.tail]
  | case8 depth quote rest hescape ih => rw [scanWord, if_neg hescape, if_pos rfl, ih h.tail]
  | case9 quote depth c rest hescape hquote ih =>
      rw [scanWord, if_neg hescape, if_neg hquote, ih h.tail]
  | case10 depth rest ih => rw [scanWord, if_pos rfl, ih h.tail]
  | case11 depth c rest hline ih => rw [scanWord, if_neg hline, ih h.tail]
  | case12 depth rest ih => rw [scanWord, ih h.tail.tail]
  | case13 depth c rest hblock ih => rw [scanWord.eq_9 _ _ _ hblock, ih h.tail]

/-! ### When an input goes on -/

/-- **When an input goes on on the next line.**  A text is read as a row of segments in exactly one
way.  Something is open at its end exactly if more brackets are opened than closed among the
characters of code, or the last segment is a block comment that is not closed.  For a text of fewer
than `2 ^ 31` characters the depth is found with a counter of 32 bits, at no point of the scan
leaving its range. -/
theorem isUnclosed_iff_segments {s : Text} (hlength : s.length < 2 ^ 31) :
    (∃! segments, Reads segments s) ∧
      (∀ segments, Reads segments s →
        (isUnclosed s = true ↔ bracketsClosed segments < bracketsOpened segments ∨
          ∃ body, segments.getLast? = some (.unclosed .block body))) ∧
      scanWord .code 0 s = some (scan .code 0 s) := by
  refine ⟨?_, ?_, ?_⟩
  · obtain ⟨segments, hsegments⟩ := exists_reads s
    exact ⟨segments, hsegments, fun other hother => hother.unique hsegments⟩
  · intro segments hsegments
    obtain ⟨hdepth, hmode⟩ := hsegments.scan 0
    have hbalance :
        0 < 0 + balance segments ↔ bracketsClosed segments < bracketsOpened segments := by
      unfold balance
      omega
    unfold isUnclosed
    simp only [Bool.or_eq_true, decide_eq_true_eq]
    rw [hdepth, hmode, hbalance]
  · apply scanWord_eq_scan
    unfold HasRoom
    omega

/-- A bracket, then a comment that holds nothing but a slash, then a string that holds an escaped
quote and a bracket. -/
theorem isUnclosed_iff_segments_bracket :
    let s : Text := "[/*/*/'\\'\x7b'"
    let segments : List Segment :=
      [.code '[', .closed .block "/", .closed (.string .single) "\\'\x7b"]
    Reads segments s ∧ isUnclosed s = true ∧ scanWord .code 0 s = some (.code, 1) := by
  intro s segments
  have hlength : s.length < 2 ^ 31 := by decide
  have hcode : (Segment.code '[').Stands "/*/*/'\\'\x7b'" := by
    intro span
    rcases span with ⟨_ | _⟩ | _ | _ <;> decide
  have hcomment : (Segment.closed .block "/").Stands "'\\'\x7b'" := by
    show ¬ Span.closing .block <:+: _
    decide
  have hstring : (Segment.closed (.string .single) "\\'\x7b").Stands [] :=
    .escaped (.plain (by decide) (by decide) .nil)
  have hreads : Reads segments s := .cons hcode (.cons hcomment (.cons hstring .nil))
  obtain ⟨_, hiff, hword⟩ := isUnclosed_iff_segments hlength
  refine ⟨hreads, (hiff segments hreads).mpr (Or.inl (by decide)), ?_⟩
  rw [hword]
  decide

end HaxePrompt.Delimiters
