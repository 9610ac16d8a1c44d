import HaxePrompt.Proofs.Tool.Forwarding
import HaxePrompt.Proofs.Tool.Fragment
import HaxePrompt.Proofs.Tool.Visits

/-! # What a runner takes in

A runner reads requests line by line.  How it does so is taken as an assumption about Node's
`readline`: to it a line ends not only at a line feed and at a carriage return but also at a line
separator and at a paragraph separator (`Intake.lines`).  Releases that do not end a line at these
two are not spoken of.  A quoted text has no control character, but it has the separators of the
text as they are.

So the one request that an evaluation writes is as many lines as the code has separators, and one
more (`Taken.count`).  Code without a separator is asked for by its one line, and is run once
(`Taken.asked`).  Code with a separator is not asked for by any line (`Taken.broken`): the first
line and the last are no JSON text and each line between them is none or has no member, and every
one of them is answered by a report (`Taken.answered`).  The evaluation takes the first of the
reports, and the others wait for the evaluations after it (`ask_of_separated`). -/

namespace HaxePrompt

namespace Intake

/-! ### Lines -/

/-- Is the character the line separator or the paragraph separator? -/
def isSeparator (c : Char) : Bool := c == '\u2028' || c == '\u2029'

/-- Does a line end at the character? -/
def endsLine (c : Char) : Bool := c == '\n' || c == '\r' || isSeparator c

/-- No line ends in the text. -/
def InLine (s : Text) : Prop := ∀ c ∈ s, endsLine c = false

-- found over the characters of the text, not over all there are
instance (s : Text) : Decidable (InLine s) := List.decidableBAll (fun c => endsLine c = false) s

theorem InLine.countP_eq_zero {s : Text} (h : InLine s) : s.countP endsLine = 0 :=
  List.countP_eq_zero.mpr fun c hc => by simp [h c hc]

/-- The lines and the rest of a text, with more text in front of it that ends no line. -/
def behind (front : Text) : List Text × Text → List Text × Text
  | ([], rest) => ([], front ++ rest)
  | (line :: lines, rest) => ((front ++ line) :: lines, rest)

/-- The lines that end in a text, and what follows the last of them, as `readline` is assumed to
tell them apart.  A carriage return and a line feed end one line together. -/
def lines : Text → List Text × Text
  | [] => ([], [])
  | '\r' :: '\n' :: s => ([] :: (lines s).1, (lines s).2)
  | c :: s => if endsLine c then ([] :: (lines s).1, (lines s).2) else behind [c] (lines s)

def ofBytes (bytes : Bytes) : List Text × Text := lines (Utf8.decodeLossy bytes)

section Lines

variable {c : Char}

theorem behind_nil (read : List Text × Text) : behind [] read = read := by
  obtain ⟨_ | _, _⟩ := read <;> rfl

theorem behind_behind (front s : Text) (read : List Text × Text) :
    behind front (behind s read) = behind (front ++ s) read := by
  obtain ⟨_ | _, _⟩ := read <;> simp [behind]

theorem lines_cons_of_ends (hc : endsLine c = true) (hreturn : c ≠ '\r') (s : Text) :
    lines (c :: s) = ([] :: (lines s).1, (lines s).2) := by
  rw [lines.eq_3 _ _ fun _ h => absurd h hreturn, if_pos hc]

theorem lines_cons_of_not_ends (hc : endsLine c = false) (s : Text) :
    lines (c :: s) = behind [c] (lines s) := by
  have hreturn : c ≠ '\r' := by
    rintro rfl
    revert hc
    decide
  rw [lines.eq_3 _ _ fun _ h => absurd h hreturn, if_neg (by rw [hc]; exact Bool.false_ne_true)]

/-- Text that ends no line goes to the line that it stands in front of. -/
theorem lines_append {front : Text} (hfront : InLine front) (s : Text) :
    lines (front ++ s) = behind front (lines s) := by
  induction front with
  | nil => exact (behind_nil _).symm
  | cons c front ih =>
      obtain ⟨hc, hfront⟩ := List.forall_mem_cons.mp hfront
      rw [List.cons_append, lines_cons_of_not_ends hc, ih hfront, behind_behind]
      rfl

end Lines

/-! ### Quoted text -/

section Quoted

variable {c : Char}

theorem quoteChar_of_isSeparator (hc : isSeparator c = true) : Json.quoteChar c = [c] := by
  rcases Bool.or_eq_true_iff.mp hc with hc | hc
  · rw [beq_iff_eq.mp hc]
    rfl
  · rw [beq_iff_eq.mp hc]
    rfl

theorem inLine_quoteControl : ∀ n < 0x20, InLine ['\\', 'u', '0', '0',
    Json.hexDigits.getD (n / 16) '0', Json.hexDigits.getD (n % 16) '0'] := by
  decide

theorem inLine_quoteChar (hc : isSeparator c = false) : InLine (Json.quoteChar c) := by
  unfold Json.quoteChar
  split_ifs with hquote hslash hback htab hline hform hreturn hcontrol
  · decide
  · decide
  · decide
  · decide
  · decide
  · decide
  · decide
  · exact inLine_quoteControl c.toNat hcontrol
  · exact List.forall_mem_singleton.mpr (by simp [endsLine, hc, hline, hreturn])

theorem countP_quoteChar (c : Char) :
    (Json.quoteChar c).countP endsLine = if isSeparator c then 1 else 0 := by
  cases hc : isSeparator c with
  | true =>
      rw [quoteChar_of_isSeparator hc, List.countP_singleton]
      simp [endsLine, hc]
  | false => exact (inLine_quoteChar hc).countP_eq_zero

/-- The separators are all that ends a line inside the quotes. -/
theorem countP_inside (s : Text) : (Json.inside s).countP endsLine = s.countP isSeparator := by
  induction s with
  | nil => rfl
  | cons c s ih =>
      rw [Json.inside, List.flatMap_cons, List.countP_append, countP_quoteChar, ← Json.inside, ih,
        List.countP_cons, Nat.add_comm]

/-- Quoted text that is closed in a way that ends no line, and a line feed, are lines that hold the
pieces of the text between its separators. -/
theorem exists_pieces {closing : Text} (hclosing : InLine closing) (s : Text) :
    ∃ pieces last, lines (Json.inside s ++ (closing ++ Text.newline)) =
        (pieces.map Json.inside ++ [Json.inside last ++ closing], []) ∧
      pieces.length = s.countP isSeparator ∧ pieces ++ [last] = s.splitOnP isSeparator := by
  induction s with
  | nil =>
      refine ⟨[], [], ?_, rfl, List.splitOnP_nil.symm⟩
      have hend : lines Text.newline = ([[]], []) := rfl
      rw [Json.inside, List.flatMap_nil, List.nil_append, lines_append hclosing, hend]
      simp [behind]
  | cons c s ih =>
      obtain ⟨pieces, last, hlines, hlength, hpieces⟩ := ih
      rw [Json.inside, List.flatMap_cons, ← Json.inside, List.append_assoc,
        List.splitOnP_cons_eq_if_modifyHead, ← hpieces]
      cases hc : isSeparator c with
      | true =>
          have hends : endsLine c = true := by simp [endsLine, hc]
          have hreturn : c ≠ '\r' := by
            rintro rfl
            revert hc
            decide
          refine ⟨[] :: pieces, last, ?_, ?_, (if_pos rfl).symm⟩
          · rw [quoteChar_of_isSeparator hc, List.singleton_append,
              lines_cons_of_ends hends hreturn, hlines]
            rfl
          · rw [List.length_cons, hlength, List.countP_cons_of_pos hc]
      | false =>
          have hcount : (c :: s).countP isSeparator = s.countP isSeparator :=
            List.countP_cons_of_neg (by rw [hc]; exact Bool.false_ne_true)
          have hone : ∀ t, Json.inside (c :: t) = Json.quoteChar c ++ Json.inside t := fun _ => rfl
          rw [lines_append (inLine_quoteChar hc), hlines, hcount,
            if_neg Bool.false_ne_true]
          cases pieces with
          | nil =>
              refine ⟨[], c :: last, ?_, hlength, rfl⟩
              simp [behind, hone]
          | cons piece pieces =>
              refine ⟨(c :: piece) :: pieces, last, ?_, hlength, rfl⟩
              simp [behind, hone]

end Quoted

/-! ### Requests -/

section Request

variable (code : Text)

/-- The member that a request has. -/
def codeMember : Json.Member :=
  ⟨"code", Json.quote code, .string (some code), Json.reads_quote code⟩

theorem quote_code : Json.quote "code" = ['"', 'c', 'o', 'd', 'e', '"'] := rfl

theorem request_eq_writeObject :
    request code = Json.writeObject [codeMember code] ++ Text.newline := by
  have hwrite : Json.writeObject [codeMember code] =
      '\x7b' :: (Json.quote "code" ++ ':' :: Json.quote code ++ ['\x7d']) := by
    rw [Json.writeObject, List.map_singleton, Text.join_singleton]
    rfl
  rw [hwrite, quote_code]
  rfl

/-- What stands in a request before the code. -/
def opening : Text := '\x7b' :: (Json.quote "code" ++ [':', '"'])

/-- What stands in a request behind the code. -/
def closing : Text := ['"', '\x7d']

theorem request_eq :
    request code = opening ++ (Json.inside code ++ (closing ++ Text.newline)) := by
  have hfront : (("\x7b\"code\":" : String) : Text) = '\x7b' :: (Json.quote "code" ++ [':']) := rfl
  have hquote : Json.quote code = ['"'] ++ Json.inside code ++ ['"'] := rfl
  have hback : (("\x7d" : String) : Text) = ['\x7d'] := rfl
  unfold request opening closing
  simp only [hfront, hquote, hback, List.append_assoc, List.cons_append, List.nil_append]

end Request

theorem inLine_around : InLine opening ∧ InLine closing := by
  decide

/-- A request is as many lines as its code has separators, and one more.  Each piece of the code
between separators stands on a line of its own. -/
theorem lines_request (code : Text) :
    ∃ pieces last, lines (request code) =
        behind opening (pieces.map Json.inside ++ [Json.inside last ++ closing], []) ∧
      pieces.length = code.countP isSeparator ∧
      pieces ++ [last] = code.splitOnP isSeparator := by
  obtain ⟨pieces, last, hlines, hlength, hpieces⟩ := exists_pieces inLine_around.2 code
  exact ⟨pieces, last, by rw [request_eq, lines_append inLine_around.1, hlines], hlength,
    hpieces⟩

theorem length_lines_request (code : Text) :
    (lines (request code)).1.length = code.countP isSeparator + 1 ∧
      (lines (request code)).2 = [] := by
  obtain ⟨pieces, last, hlines, hlength, -⟩ := lines_request code
  rw [hlines, ← hlength]
  cases pieces <;> simp [behind]

theorem countP_body (code : Text) :
    (opening ++ (Json.inside code ++ closing)).countP endsLine = code.countP isSeparator := by
  rw [List.countP_append, List.countP_append, inLine_around.1.countP_eq_zero,
    inLine_around.2.countP_eq_zero, countP_inside, Nat.zero_add, Nat.add_zero]

theorem lines_whole {code : Text} (h : code.countP isSeparator = 0) :
    lines (request code) = ([Json.writeObject [codeMember code]], []) := by
  obtain ⟨pieces, last, hlines, hlength, hpieces⟩ := lines_request code
  obtain rfl : pieces = [] := List.length_eq_zero_iff.mp (hlength.trans h)
  have hnone : ∀ c ∈ code, isSeparator c = false := fun c hc =>
    eq_false_of_ne_true (List.countP_eq_zero.mp h c hc)
  rw [List.splitOnP_eq_singleton hnone] at hpieces
  obtain rfl : last = code := List.singleton_injective hpieces
  have hline : Json.writeObject [codeMember last] = opening ++ (Json.inside last ++ closing) := by
    have heq := (request_eq_writeObject last).symm.trans (request_eq last)
    rw [← List.append_assoc, ← List.append_assoc, List.append_assoc opening] at heq
    exact List.append_cancel_right heq
  rw [hlines, hline]
  rfl

/-- The lines of a request for code with separators: its code is quoted on none of them. -/
theorem lines_broken {code : Text} (h : code.countP isSeparator ≠ 0) :
    ∃ first middle last, lines (request code) = (first :: (middle ++ [last]), []) ∧
      Json.parse first = none ∧ Json.parse last = none ∧
      ∀ line ∈ middle, ∀ json, Json.parse line = some json → ∀ name, json.member? name = none := by
  obtain ⟨pieces, last, hlines, hlength, -⟩ := lines_request code
  cases pieces with
  | nil => exact absurd hlength.symm h
  | cons piece pieces =>
      refine ⟨opening ++ Json.inside piece, pieces.map Json.inside, Json.inside last ++ closing,
        hlines, ?_, Json.parse_lastPiece ⟨last, rfl⟩, ?_⟩
      · have hform : opening ++ Json.inside piece =
            '\x7b' :: (Json.quote "code" ++ ':' :: '"' :: Json.inside piece) := by
          simp [opening]
        rw [hform]
        exact Json.parse_firstPiece "code" piece
      · intro line hline json hjson
        obtain ⟨t, -, rfl⟩ := List.mem_map.mp hline
        exact Json.member?_of_parse (Or.inl rfl) ⟨t, (List.append_nil _).symm⟩ hjson

end Intake

/-! ### Answering -/

/-- What comes of a line that a runner reads. -/
structure Response (σ : Type) where
  payload? : Option Payload
  /-- What is defined after it, unless the runner has ended or does not come back. -/
  state? : Option σ

/-- What a runner runs code by. -/
structure Host (σ : Type) where
  serve : Json → σ → Response σ
  complaint : Text → Text

namespace Host

variable {σ : Type} (host : Host σ)

/-- What is reported on a line that is no JSON text. -/
def malformed (line : Text) : Payload :=
  { ok := false, message := some (some ("malformed request: " ++ host.complaint line)) }

/-- Answers a line. -/
def respond (line : Text) (state : σ) : Response σ :=
  match Json.parse line with
  | some json => host.serve json state
  | none => { payload? := some (host.malformed line), state? := some state }

def respondAll : List Text → σ → List (Response σ)
  | [], _ => []
  | line :: lines, state =>
    let response := host.respond line state
    response :: match response.state? with
      | some state => respondAll lines state
      | none => []

def reports (lines : List Text) (state : σ) : List Payload :=
  (host.respondAll lines state).filterMap (·.payload?)

/-- A request without code is reported on: there is nothing to run, or it cannot be asked for its
code. -/
def Steady : Prop := ∀ json state, json.member? "code" = none →
  (host.serve json state).payload?.isSome ∧ (host.serve json state).state?.isSome

/-- The line is no JSON text, or one that has no code. -/
def HasNoCode (line : Text) : Prop :=
  ∀ json, Json.parse line = some json → json.member? "code" = none

theorem hasNoCode_of_not_parsed {line : Text} (h : Json.parse line = none) : HasNoCode line := by
  intro json hjson
  rw [h] at hjson
  cases hjson

variable {host}

theorem respond_of_not_parsed {line : Text} (h : Json.parse line = none) (state : σ) :
    host.respond line state = { payload? := some (host.malformed line), state? := some state } := by
  rw [respond, h]

theorem respondAll_singleton (line : Text) (state : σ) :
    host.respondAll [line] state = [host.respond line state] := by
  rw [respondAll]
  cases (host.respond line state).state? <;> rfl

theorem head?_reports {line : Text} (h : Json.parse line = none) (lines : List Text) (state : σ) :
    (host.reports (line :: lines) state).head? = some (host.malformed line) := by
  rw [reports, respondAll, respond_of_not_parsed h]
  rfl

theorem respond_of_hasNoCode (hhost : host.Steady) {line : Text} (h : HasNoCode line) (state : σ) :
    (host.respond line state).payload?.isSome ∧ (host.respond line state).state?.isSome := by
  unfold respond
  split
  · rename_i json hjson
    exact hhost json state (h json hjson)
  · exact ⟨rfl, rfl⟩

/-- Lines that have no code are reported on one by one. -/
theorem length_reports (hhost : host.Steady) {lines : List Text}
    (h : ∀ line ∈ lines, HasNoCode line) (state : σ) :
    (host.reports lines state).length = lines.length := by
  induction lines generalizing state with
  | nil => rfl
  | cons line lines ih =>
      obtain ⟨hline, hlines⟩ := List.forall_mem_cons.mp h
      obtain ⟨hpayload, hstate⟩ := respond_of_hasNoCode hhost hline state
      obtain ⟨payload, hpayload⟩ := Option.isSome_iff_exists.mp hpayload
      obtain ⟨state', hstate⟩ := Option.isSome_iff_exists.mp hstate
      have hrest := ih hlines state'
      rw [reports] at hrest
      rw [reports, respondAll]
      simp only [hstate]
      rw [List.filterMap_cons_some hpayload, List.length_cons, hrest, List.length_cons]

end Host

/-! ### What is asked by an evaluation -/

open Intake

/-- How bytes that ask for code are taken in by a runner. -/
structure Taken (code : Text) (bytes : Bytes) : Prop where
  /-- They are a text that ends in a line feed, before which as many characters end a line as the
  code has separators. -/
  endings : ∃ body, Utf8.decodeStrict bytes = some (body ++ Text.newline) ∧
    body.countP endsLine = code.countP isSeparator
  /-- They are as many lines as the code has separators, and one more. -/
  count : (ofBytes bytes).1.length = code.countP isSeparator + 1
  nothing_left : (ofBytes bytes).2 = []
  asked : code.countP isSeparator = 0 → ∃ json, json.member? "code" = some (.string (some code)) ∧
    ∀ (σ : Type) (host : Host σ) (state : σ),
      host.respondAll (ofBytes bytes).1 state = [host.serve json state]
  /-- Code with a separator is asked for by no line: the first and the last are no JSON text, and
  those between them have no code. -/
  broken : code.countP isSeparator ≠ 0 → ∃ first middle last,
    (ofBytes bytes).1 = first :: (middle ++ [last]) ∧
      Json.parse first = none ∧ Json.parse last = none ∧ ∀ line ∈ middle, Host.HasNoCode line
  /-- The first report is then that the request is malformed, and there is one on each line. -/
  answered : code.countP isSeparator ≠ 0 → ∀ (σ : Type) (host : Host σ) (state : σ),
    (∃ line, (host.reports (ofBytes bytes).1 state).head? = some (host.malformed line)) ∧
      (host.Steady →
        (host.reports (ofBytes bytes).1 state).length = code.countP isSeparator + 1)

theorem ofBytes_encode (s : Text) : ofBytes (Utf8.encode s) = lines s := by
  rw [ofBytes, Utf8.decodeLossy_encode]

/-- **A request is one line to a runner only if its code has no separator.** -/
theorem taken_request (code : Text) : Taken code (Utf8.encode (request code)) where
  endings := by
    refine ⟨opening ++ (Json.inside code ++ closing), ?_, countP_body code⟩
    rw [Utf8.decodeStrict_encode, request_eq]
    simp only [List.append_assoc]
  count := by
    rw [ofBytes_encode]
    exact (length_lines_request code).1
  nothing_left := by
    rw [ofBytes_encode]
    exact (length_lines_request code).2
  asked hcount := by
    refine ⟨.object [(codeMember code).read], rfl, fun σ host state => ?_⟩
    have hparse := Json.parse_writeObject (List.cons_ne_nil (codeMember code) [])
    rw [ofBytes_encode, lines_whole hcount, Host.respondAll_singleton, Host.respond, hparse]
    rfl
  broken hcount := by
    obtain ⟨first, middle, last, hlines, hfirst, hlast, hmiddle⟩ := lines_broken hcount
    exact ⟨first, middle, last, by rw [ofBytes_encode, hlines], hfirst, hlast,
      fun line hline json hjson => hmiddle line hline json hjson "code"⟩
  answered hcount σ host state := by
    obtain ⟨first, middle, last, hlines, hfirst, hlast, hmiddle⟩ := lines_broken hcount
    have hlength := (length_lines_request code).1
    rw [ofBytes_encode, ← hlength, hlines]
    refine ⟨⟨first, Host.head?_reports hfirst _ state⟩, fun hhost => ?_⟩
    apply Host.length_reports hhost
    intro line hline json hjson
    rcases List.mem_cons.mp hline with rfl | hline
    · exact Host.hasNoCode_of_not_parsed hfirst json hjson
    · rcases List.mem_append.mp hline with hline | hline
      · exact hmiddle line hline json hjson "code"
      · rw [List.mem_singleton.mp hline] at hjson
        exact Host.hasNoCode_of_not_parsed hlast json hjson

/-- Code in which a string literal has a line separator. -/
def separated : Text := "'a\u2028b';"

/-- The request for it is two lines, and neither is a JSON text. -/
theorem malformed_twice :
    ofBytes (Utf8.encode (request separated)) =
        ([opening ++ ("'a" : Text), ("b';" : Text) ++ closing], []) ∧
      ∀ line ∈ (ofBytes (Utf8.encode (request separated))).1, (Json.parse line).isNone := by
  decide +kernel

/-! ### What an evaluation writes -/

/-- The line that a process was handed. -/
def Dealing.line? : Dealing → Option Bytes
  | .handed _ line _ => some line
  | _ => none

/-- The lines that were written to processes in the course of a call, in order. -/
def Visit.written (visit : Visit) : List Bytes := (visit.dealings.filterMap Dealing.line?).reverse

section Written

variable {π : Type} [Programs π]

/-- Asking a runner writes one request, and may end the runner then. -/
theorem record_ask (sandbox : Sandbox) (runner : Runner) (code : Text)
    (machine : Machine (Recorded π)) :
    ∃ later answer, ((sandbox.ask runner code).run machine).state.record =
        later ++ .handed runner.process (Utf8.encode (request code)) answer :: machine.record ∧
      later.filterMap Dealing.line? = [] := by
  have hdeliver := Machine.record_deliver runner.process (Utf8.encode (request code)) machine
  rcases Sandbox.ask_cases sandbox runner code machine with
    ⟨_, _, _, -, -, -, hstate⟩ | ⟨-, -, hstate⟩
  · exact ⟨[], _, (congrArg Machine.record hstate).trans hdeliver, rfl⟩
  · have hstop := Machine.record_stop runner.process
      ((Machine.deliver runner.process (Utf8.encode (request code))).run machine).state
    rw [hdeliver] at hstop
    exact ⟨[.stopped runner.process], _, (congrArg Machine.record hstate).trans hstop, rfl⟩

/-- An evaluation writes its request, unless no runner can be started. -/
theorem written_evaluate (sandbox : Sandbox) (machine : Machine (Recorded π)) (code : Text) :
    let visit := sandbox.visit machine (.evaluate code)
    visit.written = [Utf8.encode (request code)] ∨
      visit.written = [] ∧ ∃ error,
        visit.result? = some (.error (.of .eval (Fault.cannotRun sandbox.program error))) := by
  intro visit
  have hwritten : ∀ {own}, ((sandbox.evaluate code).run machine).state.record =
      own ++ machine.record → visit.written = (own.filterMap Dealing.line?).reverse := by
    intro own hown
    have hdealings : visit.dealings = own := Visit.dealings_eq hown
    rw [Visit.written, hdealings]
  -- what is asked in the course of it, with what comes before
  have hasked : ∀ {later : List Dealing} {process : Nat} {answer : Except IoError Reaction}
      (begun : List Dealing), ((sandbox.evaluate code).run machine).state.record =
        later ++ .handed process (Utf8.encode (request code)) answer :: (begun ++ machine.record) →
      later.filterMap Dealing.line? = [] → begun.filterMap Dealing.line? = [] →
      visit.written = [Utf8.encode (request code)] := by
    intro later process answer begun hrecord hlater hbegun
    rw [← List.cons_append, ← List.append_assoc] at hrecord
    have hline : Dealing.line? (.handed process (Utf8.encode (request code)) answer) =
        some (Utf8.encode (request code)) := rfl
    rw [hwritten hrecord, List.filterMap_append, hlater, List.filterMap_cons_some hline, hbegun]
    rfl
  cases hrunner : sandbox.runner with
  | some runner =>
      obtain ⟨later, answer, hrecord, hlater⟩ := record_ask sandbox runner code machine
      rw [← Sandbox.run_evaluate_of_runner hrunner] at hrecord
      exact Or.inl (hasked [] hrecord hlater rfl)
  | none =>
      rcases Machine.record_start sandbox.invocation machine with
        ⟨error, hstart, hrecord⟩ | ⟨process, hstart, hrecord⟩
      · obtain ⟨hvalue, hstate⟩ := Sandbox.evaluate_of_start_error code hrunner hstart
        rw [← hstate] at hrecord
        exact Or.inr ⟨@hwritten [] hrecord, error,
          congrArg (fun value : Sandbox × Except Fault (Option Text) => some value.2) hvalue⟩
      · obtain ⟨-, hstate⟩ := Sandbox.evaluate_of_start_ok code hrunner hstart
        obtain ⟨later, answer, hown, hlater⟩ := record_ask sandbox { process } code
          ((Machine.start sandbox.invocation).run machine).state
        rw [hrecord, ← hstate] at hown
        exact Or.inl (hasked [.started process] hown hlater rfl)

/-- **What an evaluation asks of its runner.**  If there is one, the evaluation writes one request,
which is taken in as one line exactly if the code has no separator.  This is under the assumption
that the runner's `readline` ends a line at a separator, as `Intake.lines` does. -/
theorem taken_evaluate (sandbox : Sandbox) (machine : Machine (Recorded π)) (code : Text) :
    let visit := sandbox.visit machine (.evaluate code)
    (∃ bytes, visit.written = [bytes] ∧ Taken code bytes) ∨
      visit.written = [] ∧ ∃ error,
        visit.result? = some (.error (.of .eval (Fault.cannotRun sandbox.program error))) := by
  intro visit
  rcases written_evaluate sandbox machine code with hwritten | hnothing
  · exact Or.inl ⟨_, hwritten, taken_request code⟩
  · exact Or.inr hnothing

end Written

/-! ### What waits -/

/-- **Code with separators puts the runner out of step.**  The evaluation fails on a request that is
malformed, and as many reports as the code has separators wait for the evaluations after it. -/
theorem ask_of_separated {π σ : Type} [Programs π] {sandbox : Sandbox} {runner : Runner}
    {code : Text} {machine : Machine π} {reaction : Reaction} {programs : π} {host : Host σ}
    {state : σ} {transcript : Transcript} (hcode : code.countP isSeparator ≠ 0)
    (hunfinished : runner.unfinished = []) (hreports : runner.reports = [])
    (hdeliver : Programs.deliver runner.process (Utf8.encode (request code)) machine.programs =
      (.ok reaction, programs))
    (houtput : reaction.output = transcript.bytes) (hfree : transcript.TagFree)
    (hsteady : host.Steady) (hsent : transcript.answered.map (·.2) =
      host.reports (ofBytes (Utf8.encode (request code))).1 state) :
    ∃ line held, ((sandbox.ask runner code).run machine).value =
        ({ sandbox with runner := some held },
          .error (.of .eval ("malformed request: " ++ host.complaint line))) ∧
      held.reports.length = code.countP isSeparator := by
  have htaken := (taken_request code).answered hcode σ host state
  obtain ⟨line, hfirst⟩ := htaken.1
  have hlength := htaken.2 hsteady
  rw [← hsent] at hfirst hlength
  have hread : Report.reportsIn (Sandbox.receive runner.unfinished reaction).1 =
      (transcript.answered.map (·.2)).map Payload.report := by
    rw [hunfinished, Sandbox.reportsIn_receive hfree houtput, Transcript.reports, List.map_map]
    rfl
  have hhanded : ((Machine.deliver runner.process (Utf8.encode (request code))).run machine).value =
      .ok reaction := by
    unfold Machine.deliver
    simp only [Act.run_bind, Act.run_get, Act.run_modify, Act.run_pure, hdeliver]
  obtain ⟨payloads, hpayloads⟩ : ∃ payloads,
      transcript.answered.map (·.2) = host.malformed line :: payloads :=
    List.head?_eq_some_iff.mp hfirst
  rw [hpayloads] at hread hlength
  rcases Sandbox.ask_cases sandbox runner code machine with
    ⟨reaction', report, reports, hreaction, htaken', hvalue, -⟩ | ⟨hnone, -, -⟩
  · rw [hhanded] at hreaction
    cases hreaction
    rw [hreports, hread, List.nil_append, List.map_cons] at htaken'
    obtain ⟨rfl, rfl⟩ := List.cons_eq_cons.mp htaken'
    refine ⟨line, _, hvalue, ?_⟩
    rw [List.length_map]
    exact Nat.succ_injective hlength
  · have hempty := hnone reaction hhanded
    rw [hreports, hread] at hempty
    cases hempty

end HaxePrompt
