import HaxePrompt.Proofs.Tool.Asking
import HaxePrompt.Proofs.Tool.Link

/-! # Requests and reports stay in step

`System.Consistent` is the invariant: attached links fit what their readers have printed, only the
runner that the caller holds or waits for is attached, and on it as many requests were written as
reports were taken, or one more while the caller waits.  A move of any party keeps it, so it holds
of whatever interleaving.  An evaluation that ends by a report therefore ends by the reply to its
own request, with all output before it written (`System.report_of_own_request`). -/

namespace HaxePrompt

namespace Parties

/-! ### The numbers of the calls -/

/-- No call is asked of two runners, and each runner is asked in the order of the calls. -/
structure Numbered (asked : Nat → List Asked) (bound : Nat) : Prop where
  below : ∀ id, ∀ a ∈ asked id, a.call < bound
  rising : ∀ id, ((asked id).map Asked.call).Pairwise (· < ·)
  once : ∀ id id', ∀ a ∈ asked id, ∀ a' ∈ asked id', a.call = a'.call → id = id'

namespace Numbered

variable {asked : Nat → List Asked} {bound : Nat}

theorem mono (h : Numbered asked bound) {bound' : Nat} (hle : bound ≤ bound') :
    Numbered asked bound' :=
  { h with below := fun id a ha => Nat.lt_of_lt_of_le (h.below id a ha) hle }

theorem forget (h : Numbered asked bound) (id : Nat) :
    Numbered (Function.update asked id []) bound := by
  have hsub : ∀ id' a, a ∈ Function.update asked id [] id' → a ∈ asked id' := by
    intro id' a ha
    by_cases hid : id' = id
    · rw [hid, Function.update_self] at ha
      cases ha
    · rwa [Function.update_of_ne hid] at ha
  refine ⟨fun id' a ha => h.below id' a (hsub id' a ha), ?_, ?_⟩
  · intro id'
    by_cases hid : id' = id
    · rw [hid, Function.update_self]
      exact List.Pairwise.nil
    · rw [Function.update_of_ne hid]
      exact h.rising id'
  · exact fun i j a ha a' ha' => h.once i j a (hsub i a ha) a' (hsub j a' ha')

theorem ask (h : Numbered asked bound) (id : Nat) (code : Text) :
    Numbered (Function.update asked id (asked id ++ [⟨bound, code⟩])) (bound + 1) := by
  have hmem : ∀ id' a, a ∈ Function.update asked id (asked id ++ [⟨bound, code⟩]) id' →
      a ∈ asked id' ∨ id' = id ∧ a.call = bound := by
    intro id' a ha
    by_cases hid : id' = id
    · rw [hid, Function.update_self, List.mem_append, List.mem_singleton] at ha
      rcases ha with ha | rfl
      · exact Or.inl (by rwa [hid])
      · exact Or.inr ⟨hid, rfl⟩
    · rw [Function.update_of_ne hid] at ha
      exact Or.inl ha
  refine ⟨?_, ?_, ?_⟩
  · intro id' a ha
    rcases hmem id' a ha with ha | ⟨_, ha⟩
    · exact Nat.lt_succ_of_lt (h.below id' a ha)
    · omega
  · intro id'
    by_cases hid : id' = id
    · rw [hid, Function.update_self, List.map_append, List.map_singleton,
        List.pairwise_append]
      refine ⟨h.rising id, List.pairwise_singleton _ _, ?_⟩
      intro call hcall call' hcall'
      obtain ⟨a, ha, rfl⟩ := List.mem_map.mp hcall
      rw [List.mem_singleton.mp hcall']
      exact h.below id a ha
    · rw [Function.update_of_ne hid]
      exact h.rising id'
  · intro i j a ha a' ha' heq
    rcases hmem i a ha with ha | ⟨hi, hcall⟩ <;> rcases hmem j a' ha' with ha' | ⟨hj, hcall'⟩
    · exact h.once i j a ha a' ha' heq
    · have := h.below i a ha
      omega
    · have := h.below j a' ha'
      omega
    · rw [hi, hj]

end Numbered

/-! ### Standard output -/

/-- The bytes that the reader of a runner printed. -/
def bytesOf (id : Nat) (entries : List (Nat × UInt8)) : Bytes :=
  entries.filterMap fun entry => if entry.1 = id then some entry.2 else none

theorem bytesOf_append (id : Nat) (entries entries' : List (Nat × UInt8)) :
    bytesOf id (entries ++ entries') = bytesOf id entries ++ bytesOf id entries' :=
  List.filterMap_append

theorem bytesOf_map_self (id : Nat) (bytes : Bytes) : bytesOf id (bytes.map (id, ·)) = bytes := by
  induction bytes with
  | nil => rfl
  | cons b bytes ih =>
      rw [bytesOf, List.map_cons, List.filterMap_cons, if_pos rfl]
      exact congrArg (b :: ·) ih

theorem bytesOf_eq_nil {id : Nat} {entries : List (Nat × UInt8)}
    (h : ∀ entry ∈ entries, entry.1 ≠ id) : bytesOf id entries = [] := by
  unfold bytesOf
  rw [List.filterMap_eq_nil_iff]
  intro entry hentry
  rw [if_neg (h entry hentry)]

/-! ### The state of all parties -/

namespace System

/-- The number that the next call to be asked has. -/
def bound (s : System) : Nat :=
  match s.caller with
  | .asking _ call _ => call
  | .idle _ | .waiting _ _ => s.calls

/-- On the runner of the caller, the report on each request written was taken, but for the one
that the caller waits for. -/
def InStep (s : System) : Prop :=
  match s.caller with
  | .idle none => True
  | .idle (some id) => (s.links id).attached = true ∧
      (s.links id).asked.length = (s.links id).taken.length
  | .asking id call _ => (s.links id).attached = true ∧
      (s.links id).asked.length = (s.links id).taken.length ∧ s.calls = call + 1
  | .waiting id call => (s.links id).attached = true ∧
      ∃ before code, (s.links id).asked = before ++ [⟨call, code⟩] ∧
        before.length = (s.links id).taken.length

/-- What holds between the parties. -/
structure Consistent (s : System) : Prop where
  fits : ∀ id, (s.links id).attached = true →
    (s.links id).Fits (bytesOf id s.written) (bytesOf id s.buffered)
  /-- No runner is attached but the one that the caller holds or waits for. -/
  attached : ∀ id, (s.links id).attached = true → s.caller.runner? = some id
  inStep : s.InStep
  known : ∀ entry ∈ s.written ++ s.buffered, entry.1 < s.started
  numbered : Numbered (fun id => (s.links id).asked) s.bound

variable {s s' : System} {id : Nat} {link : Link}

theorem consistent_initial : Consistent {} := by
  refine ⟨?_, ?_, trivial, by simp, ⟨by simp, fun _ => List.Pairwise.nil, by simp⟩⟩
  · rintro id ⟨⟩
  · rintro id ⟨⟩

theorem links_withLink_self (s : System) (id : Nat) (link : Link) :
    (s.withLink id link).links id = link := by
  simp only [withLink, Function.update_self]

theorem links_withLink_of_ne (s : System) {i id : Nat} (hi : i ≠ id) (link : Link) :
    (s.withLink id link).links i = s.links i := by
  simp only [withLink, Function.update_of_ne hi]

theorem asked_withLink (s : System) (id : Nat) (link : Link) :
    (fun i => ((s.withLink id link).links i).asked) =
      Function.update (fun i => (s.links i).asked) id link.asked := by
  funext i
  by_cases hi : i = id
  · rw [hi, links_withLink_self, Function.update_self]
  · rw [links_withLink_of_ne s hi, Function.update_of_ne hi]

theorem numbered_withLink {bound : Nat} (h : Numbered (fun i => (s.links i).asked) bound)
    (hasked : link.asked = (s.links id).asked) :
    Numbered (fun i => ((s.withLink id link).links i).asked) bound := by
  rw [asked_withLink, hasked, Function.update_eq_self]
  exact h

theorem forall_withLink {p : Nat → Link → Prop} (hlink : link.attached = true → p id link)
    (hother : ∀ i, i ≠ id → (s.links i).attached = true → p i (s.links i)) :
    ∀ i, ((s.withLink id link).links i).attached = true → p i ((s.withLink id link).links i) := by
  intro i
  by_cases hi : i = id
  · rw [hi, links_withLink_self]
    exact hlink
  · rw [links_withLink_of_ne s hi]
    exact hother i hi

theorem InStep.congr (h : s.InStep) (hcaller : s'.caller = s.caller) (hcalls : s'.calls = s.calls)
    (hsame : ∀ i, (s'.links i).attached = (s.links i).attached ∧
      (s'.links i).asked = (s.links i).asked ∧ (s'.links i).taken = (s.links i).taken) :
    s'.InStep := by
  unfold InStep at h ⊢
  rw [hcaller, hcalls]
  split at h <;> simp only [(hsame _).1, (hsame _).2.1, (hsame _).2.2] <;> exact h

theorem Consistent.bound_le (h : s.Consistent) : s.bound ≤ s.calls := by
  have hstep := h.inStep
  unfold InStep at hstep
  unfold bound
  split at hstep <;> rename_i hcaller <;> rw [hcaller]
  simp only
  omega

/-- A link may move, and standard output with it, as long as attached links still fit. -/
theorem Consistent.moved (h : s.Consistent) {written buffered : List (Nat × UInt8)}
    (hsame : link.attached = (s.links id).attached ∧ link.asked = (s.links id).asked ∧
      link.taken = (s.links id).taken)
    (hlink : (s.links id).attached = true → link.Fits (bytesOf id written) (bytesOf id buffered))
    (hother : ∀ i, i ≠ id → (s.links i).attached = true →
      (s.links i).Fits (bytesOf i written) (bytesOf i buffered))
    (hknown : ∀ entry ∈ written ++ buffered, entry.1 < s.started) :
    Consistent { s.withLink id link with written, buffered } := by
  obtain ⟨hattached, hasked, htaken⟩ := hsame
  refine ⟨?_, ?_, ?_, hknown, ?_⟩
  · apply forall_withLink (p := fun i l => l.Fits (bytesOf i written) (bytesOf i buffered))
    · rw [hattached]
      exact hlink
    · exact hother
  · apply forall_withLink (p := fun i _ => s.caller.runner? = some i)
    · rw [hattached]
      exact h.attached id
    · exact fun i _ => h.attached i
  · refine h.inStep.congr ?_ ?_ ?_
    · rfl
    · rfl
    intro i
    change ((s.withLink id link).links i).attached = _ ∧
      ((s.withLink id link).links i).asked = _ ∧ ((s.withLink id link).links i).taken = _
    by_cases hi : i = id
    · rw [hi, links_withLink_self]
      exact ⟨hattached, hasked, htaken⟩
    · rw [links_withLink_of_ne s hi]
      exact ⟨rfl, rfl, rfl⟩
  · exact numbered_withLink h.numbered hasked

theorem Consistent.held (h : s.Consistent) {caller : Caller}
    (hrunner : s.caller.runner? = some id) (hrunner' : caller.runner? = some id)
    (hlink : (s.links id).attached = true →
      link.Fits (bytesOf id s.written) (bytesOf id s.buffered))
    (hattached : link.attached = (s.links id).attached)
    (hinStep : InStep { s.withLink id link with caller })
    (hnumbered : Numbered (fun i => ((s.withLink id link).links i).asked)
      (bound { s with caller })) :
    Consistent { s.withLink id link with caller } := by
  refine ⟨?_, ?_, hinStep, h.known, hnumbered⟩
  · apply forall_withLink (p := fun i l => l.Fits (bytesOf i s.written) (bytesOf i s.buffered))
    · rw [hattached]
      exact hlink
    · exact fun i _ => h.fits i
  · intro i hi
    rw [hrunner', ← hrunner]
    revert hi
    apply forall_withLink (p := fun i _ => s.caller.runner? = some i)
    · exact fun _ => hrunner
    · exact fun i _ => h.attached i

theorem Consistent.drop (h : s.Consistent) (hrunner : s.caller.runner? = some id) :
    Consistent { s.withLink id (s.links id).dropped with caller := .idle none } := by
  refine ⟨?_, ?_, trivial, h.known, numbered_withLink (h.numbered.mono h.bound_le) rfl⟩
  · apply forall_withLink (p := fun i l => l.Fits (bytesOf i s.written) (bytesOf i s.buffered))
    · rintro ⟨⟩
    · exact fun i _ => h.fits i
  · apply forall_withLink (p := fun i _ => (none : Option Nat) = some i)
    · rintro ⟨⟩
    · intro i hi hattached
      have hother := h.attached i hattached
      rw [hrunner, Option.some.injEq] at hother
      exact absurd hother.symm hi

theorem Consistent.step {ended? : Option (Nat × Outcome)} (h : s.Consistent)
    (hstep : Step s ended? s') : s'.Consistent := by
  cases hstep with
  | @link id link hid hlink =>
      have hsame := hlink.same
      exact h.moved hsame (fun hattached => (h.fits id hattached).step hlink hattached)
        (fun i _ => h.fits i) h.known
  | @print id output report? hid hreading =>
      refine h.moved ⟨rfl, rfl, rfl⟩ ?_ ?_ ?_
      · intro hattached
        rw [bytesOf_append, bytesOf_map_self]
        exact (h.fits id hattached).print hreading
      · intro i hi hattached
        have hnone : bytesOf i ((Utf8.encode output).map (id, ·)) = [] := by
          apply bytesOf_eq_nil
          intro entry hentry
          obtain ⟨b, _, rfl⟩ := List.mem_map.mp hentry
          exact Ne.symm hi
        rw [bytesOf_append, hnone, List.append_nil]
        exact h.fits i hattached
      · intro entry hentry
        rw [← List.append_assoc, List.mem_append] at hentry
        rcases hentry with hentry | hentry
        · exact h.known entry hentry
        · obtain ⟨b, _, rfl⟩ := List.mem_map.mp hentry
          exact hid
  | @flush id report? hid hreading =>
      refine h.moved ⟨rfl, rfl, rfl⟩ ?_ ?_ ?_
      · intro hattached
        rw [bytesOf_append]
        exact (h.fits id hattached).flush hreading
      · -- a flush writes what other readers printed as well
        intro i _ hattached
        have hfits := h.fits i hattached
        rw [← List.append_nil (bytesOf i s.buffered)] at hfits
        rw [bytesOf_append]
        exact hfits.drain
      · rw [List.append_nil]
        exact h.known
  | @drain front rest hbuffered =>
      refine ⟨?_, h.attached, h.inStep, ?_, h.numbered⟩
      · intro i hattached
        have hfits := h.fits i hattached
        rw [hbuffered, bytesOf_append] at hfits
        simp only [bytesOf_append]
        exact hfits.drain
      · have hknown := h.known
        rw [hbuffered, ← List.append_assoc] at hknown
        exact hknown
  | @evaluate id code hcaller =>
      have hinStep := h.inStep
      have hnumbered := h.numbered
      have hattached := h.attached
      simp only [InStep, bound, hcaller] at hinStep hnumbered hattached
      exact ⟨h.fits, hattached, ⟨hinStep.1, hinStep.2, rfl⟩, h.known, hnumbered⟩
  | start code hcaller =>
      -- the caller holds no runner, so none is attached but the new one
      have hfree : ∀ i, (s.links i).attached ≠ true := by
        intro i hattached
        have hrunner := h.attached i hattached
        rw [hcaller] at hrunner
        cases hrunner
      -- nothing was printed under a number that is not given out yet
      have hnew : ∀ entries : List (Nat × UInt8), (∀ entry ∈ entries, entry.1 < s.started) →
          bytesOf s.started entries = [] := fun entries hknown =>
        bytesOf_eq_nil fun entry hentry => Nat.ne_of_lt (hknown entry hentry)
      refine ⟨?_, ?_, ?_, ?_, ?_⟩
      · apply forall_withLink (p := fun i l => l.Fits (bytesOf i s.written) (bytesOf i s.buffered))
        · intro _
          rw [hnew s.written fun entry hentry => h.known entry (List.mem_append_left _ hentry),
            hnew s.buffered fun entry hentry => h.known entry (List.mem_append_right _ hentry)]
          exact Link.fits_new
        · exact fun i _ hattached => absurd hattached (hfree i)
      · apply forall_withLink (p := fun i _ => some s.started = some i)
        · exact fun _ => rfl
        · exact fun i _ hattached => absurd hattached (hfree i)
      · simp [InStep, withLink]
      · exact fun entry hentry => Nat.lt_succ_of_lt (h.known entry hentry)
      · have hnumbered := h.numbered.forget s.started
        simp only [bound, hcaller] at hnumbered
        have hasked := asked_withLink s s.started { attached := true }
        rw [← hasked] at hnumbered
        exact hnumbered
  | unstarted code error hcaller =>
      have hnumbered := h.numbered
      have hattached := h.attached
      simp only [bound, hcaller] at hnumbered hattached
      refine ⟨h.fits, ?_, ?_, h.known, ?_⟩
      · simp only [hcaller]
        exact hattached
      · simp [InStep, hcaller]
      · simp only [bound, hcaller]
        exact hnumbered.mono (Nat.le_succ _)
  | @ask id call code hcaller =>
      have hinStep := h.inStep
      simp only [InStep, hcaller] at hinStep
      refine h.held (by rw [hcaller]; rfl) rfl
        (fun hlink => (h.fits id hlink).ask ⟨call, code⟩) rfl ?_ ?_
      · simp only [InStep, withLink, Function.update_self]
        exact ⟨hinStep.1, (s.links id).asked, code, rfl, hinStep.2.1⟩
      · have hnumbered := h.numbered
        simp only [bound, hcaller] at hnumbered
        have hnext := hnumbered.ask id code
        have hasked := asked_withLink s id
          { s.links id with
            stdin := (s.links id).stdin ++ [⟨call, code⟩]
            asked := (s.links id).asked ++ [⟨call, code⟩] }
        rw [← hinStep.2.2, ← hasked] at hnext
        exact hnext
  | gone error hcaller =>
      apply h.drop
      rw [hcaller]
      rfl
  | @report id call report rest hcaller hchannel =>
      have hinStep := h.inStep
      have hnumbered := h.numbered
      simp only [InStep, bound, hcaller] at hinStep hnumbered
      obtain ⟨hattached, before, code, hasked, hlength⟩ := hinStep
      refine h.held (by rw [hcaller]; rfl) rfl (fun hlink => (h.fits id hlink).take hchannel) rfl
        ?_ (numbered_withLink hnumbered rfl)
      simp only [InStep, withLink, Function.update_self]
      refine ⟨hattached, ?_⟩
      rw [hasked, List.length_append, List.length_append, hlength]
      rfl
  | exited hcaller hchannel hreading hwork =>
      apply h.drop
      rw [hcaller]
      rfl
  | reset hcaller =>
      apply h.drop
      rw [hcaller]
      rfl

theorem Reachable.consistent (h : s.Reachable) : s.Consistent := by
  induction h with
  | initial => exact consistent_initial
  | step _ hstep ih => exact ih.step hstep

/-- **A report answers the request it is taken for.**  In any interleaving, an evaluation that ends
by a report has asked the runner that sent it, and no other.  The report is that of the last reply
of this runner, which is to this request; those of the replies before it, to requests of earlier
calls, were all taken before.  All output of the runner is then written.  So the evaluation ends
as it does where the runner hands over its reply at once, and the same is shown. -/
theorem report_of_own_request (h : s.Reachable) {call runner : Nat} {report : Report}
    (hstep : Step s (some (call, .reported runner report)) s') :
    ∃ code earlier reply,
      (s.links runner).answered = earlier ++ [(⟨call, code⟩, reply)] ∧
      report = reply.report ∧
      (∀ answer ∈ earlier, answer.1.call < call) ∧
      (s.links runner).taken = earlier.map (·.2.report) ∧
      (∀ other, ∀ asked ∈ (s.links other).asked, asked.call = call → other = runner) ∧
      bytesOf runner s.written =
        Utf8.encode ((earlier.map (·.2)).flatMap Reply.shown ++ reply.shown) ∧
      ∀ (sandbox : Sandbox) {π : Type} [Programs π] (machine : Machine π) (process : Nat)
        (reaction : Reaction) (programs : π),
        Programs.deliver process (Utf8.encode (request code)) machine.programs =
            (.ok reaction, programs) →
          reaction.output = reply.bytes →
          ((sandbox.ask { process } code).run machine).value =
              ({ sandbox with runner := some { process } },
                (Outcome.reported runner report).result sandbox) ∧
            ∀ display, Emission.shown display .output
              ((sandbox.ask { process } code).run machine).emitted = Utf8.encode reply.shown := by
  have hs := h.consistent
  cases hstep with
  | @report id call report rest hcaller hchannel =>
      have hinStep := hs.inStep
      simp only [InStep, hcaller] at hinStep
      obtain ⟨hattached, before, code, hasked, hlength⟩ := hinStep
      obtain ⟨earlier, reply, hanswered, hbefore, htaken, hreport, hwritten⟩ :=
        (hs.fits runner hattached).reply hasked hlength hchannel
      refine ⟨code, earlier, reply, hanswered, hreport, ?_, htaken, ?_, ?_, ?_⟩
      · -- the requests answered before were written before, by calls with lower numbers
        intro answer hanswer
        have hrising := hs.numbered.rising runner
        simp only [hasked, ← hbefore, List.map_append, List.pairwise_append] at hrising
        exact hrising.2.2 _ (List.mem_map_of_mem (List.mem_map_of_mem hanswer)) _
          (List.mem_map_of_mem List.mem_cons_self)
      · intro other asked hother hcall
        refine hs.numbered.once other runner asked hother ⟨call, code⟩ ?_ hcall
        rw [hasked]
        exact List.mem_append_right before List.mem_cons_self
      · rw [hwritten, Link.replies, hanswered]
        simp
      · intro sandbox π _ machine process reaction programs hdeliver houtput
        rw [hreport]
        exact Sandbox.ask_of_reply rfl rfl hdeliver houtput

/-- A reply with output and a value. -/
def trialReply : Reply where
  output := Utf8.encode "hi"
  body := Utf8.encode "\x7b\"ok\":true,\"value\":\"2\"\x7d"
  tagFree := by unfold Report.TagFree; decide
  oneLine := by decide

/-- A state after two calls, the first of which could start no runner. -/
def trialState (caller : Caller) (link : Link) (buffered written : List (Nat × UInt8)) : System where
  links := Function.update (fun _ => {}) 0 link
  started := 1
  caller := caller
  calls := 2
  buffered := buffered
  written := written

theorem withLink_trialState (caller : Caller) (link link' : Link)
    (buffered written : List (Nat × UInt8)) :
    (trialState caller link buffered written).withLink 0 link' =
      trialState caller link' buffered written := by
  simp [trialState, withLink]

theorem Reachable.trial_link {caller : Caller} {link link' : Link}
    {buffered written : List (Nat × UInt8)}
    (h : (trialState caller link buffered written).Reachable) (hstep : link.Step link') :
    (trialState caller link' buffered written).Reachable := by
  have hlink : ((trialState caller link buffered written).links 0).Step link' := by
    simpa [trialState] using hstep
  have hnext := h.step (.link Nat.one_pos hlink)
  rwa [withLink_trialState] at hnext

/-- The link of the second call, when the runner has written its reply. -/
def trialLink (received : Bytes) (phase : Reading) (channel : List Report)
    (read : List Bytes) : Link :=
  { attached := true, asked := [⟨1, "2;"⟩], answered := [(⟨1, "2;"⟩, trialReply)],
    work := .busy [] none, received, reading := phase, channel, read }

theorem ofLine_trialReply :
    Report.ofLine trialReply.bytes = ("hi".toList, some trialReply.report) := by
  rw [Reply.bytes, Report.ofLine_tagged trialReply.tagFree, Reply.ofText_body]
  rfl

theorem reachable_trialState :
    (trialState (.waiting 0 1) (trialLink [] .reading [trialReply.report] [trialReply.bytes]) []
      ((Utf8.encode "hi").map (0, ·))).Reachable := by
  have hfailed : Reachable { calls := 1 } := Reachable.initial.step (.unstarted "1;" .notFound rfl)
  have hstarted : (trialState (.asking 0 1 "2;") { attached := true } [] []).Reachable :=
    hfailed.step (.start "2;" rfl)
  have hasked : (trialState (.waiting 0 1)
      { attached := true, stdin := [⟨1, "2;"⟩], asked := [⟨1, "2;"⟩] } [] []).Reachable := by
    have hnext := hstarted.step (.ask rfl)
    rw [withLink_trialState] at hnext
    exact hnext
  have hwritten := (hasked.trial_link (.answer trialReply rfl rfl)).trial_link
    (.write (congrArg (Work.busy · none) (List.append_nil trialReply.bytes).symm))
  have hreceived : (trialState (.waiting 0 1) (trialLink trialReply.bytes .reading [] []) []
      []).Reachable := hwritten.trial_link (.take rfl (List.append_nil _).symm)
  have hread : (trialState (.waiting 0 1) (trialLink []
      (.printing "hi" (some trialReply.report)) [] [trialReply.bytes]) [] []).Reachable := by
    have hline : Report.complete trialReply.bytes = ([trialReply.bytes], []) := by decide
    have hnext := hreceived.trial_link (.line rfl (congrArg Prod.fst hline))
    rw [ofLine_trialReply] at hnext
    exact hnext
  have hprinted : (trialState (.waiting 0 1) (trialLink []
      (.flushing (some trialReply.report)) [] [trialReply.bytes])
      ((Utf8.encode "hi").map (0, ·)) []).Reachable := by
    have hnext := hread.step (.print Nat.one_pos rfl)
    rw [withLink_trialState] at hnext
    exact hnext
  have hflushed : (trialState (.waiting 0 1) (trialLink []
      (.sending trialReply.report) [] [trialReply.bytes]) []
      ((Utf8.encode "hi").map (0, ·))).Reachable := by
    have hnext := hprinted.step (.flush Nat.one_pos rfl)
    rw [withLink_trialState] at hnext
    exact hnext
  exact hflushed.trial_link (.send rfl rfl)

/-- The second call ends by the report of the runner that it started. -/
theorem report_of_own_request_second :
    ∃ s s', Reachable s ∧ Step s (some (1, .reported 0 trialReply.report)) s' ∧
      trialReply.report = { ok := true, value := some "2".toList } ∧
      (∃ code earlier reply,
        (s.links 0).answered = earlier ++ [(⟨1, code⟩, reply)] ∧
        trialReply.report = reply.report ∧
        bytesOf 0 s.written =
          Utf8.encode ((earlier.map (·.2)).flatMap Reply.shown ++ reply.shown)) ∧
      bytesOf 0 s.written = Utf8.encode "hi" := by
  have hstep : Step (trialState (.waiting 0 1)
      (trialLink [] .reading [trialReply.report] [trialReply.bytes]) []
      ((Utf8.encode "hi").map (0, ·))) (some (1, .reported 0 trialReply.report)) _ :=
    .report rfl rfl
  obtain ⟨code, earlier, reply, hanswered, hreport, -, -, -, hwritten, -⟩ :=
    report_of_own_request reachable_trialState hstep
  refine ⟨_, _, reachable_trialState, hstep, by decide +kernel, ?_, bytesOf_map_self 0 _⟩
  exact ⟨code, earlier, reply, hanswered, hreport, hwritten⟩

end System

end Parties

end HaxePrompt
