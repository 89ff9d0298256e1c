/-
  TestScaffold.Proofs.Dialogue.Refusal — a terminal that takes only so much.

  A terminal with a limit refuses a question that would take it past the limit, as a whole,
  and the dialogue breaks off.  Up to there it goes as at a terminal without a limit, since
  which question comes next does not hang on the limit.  So a limited run is a free run cut
  off before the first of its questions that does not fit.

    * `CutOff` — what came of a limited run, beside what came of the free one;
    * `Cuttable` — a part of a dialogue that a limit only cuts off;
    * `Spoken.cuttable` — all parts of a dialogue are;
    * `runDialogue_limited` — a whole dialogue at a terminal with a limit.
-/
import TestScaffold.Proofs.Dialogue.Parts
import TestScaffold.Proofs.Dialogue.Rounds

namespace TestScaffold

/-! ## §1. Limits -/

/-- The bytes of questions, one after the other. -/
def bytesOf (questions : List String) : Nat :=
  (String.join questions).utf8ByteSize

theorem bytesOf_append (first second : List String) :
    bytesOf (first ++ second) = bytesOf first + bytesOf second := by
  rw [bytesOf, String.join_append, String.utf8ByteSize_append]
  rfl

/-- The same session at a terminal that takes at most so many bytes. -/
def Session.within (s : Session) (limit : Nat) : Session :=
  { s with limit? := some limit }

theorem hasRoom_within (s : Session) (limit : Nat) (question : String) :
    (s.within limit).hasRoom question = decide (bytesOf (s.questions ++ [question]) ≤ limit) := by
  rw [bytesOf_append, bytesOf, bytesOf, String.join_cons, String.join_nil, String.append_empty]
  rfl

theorem fits_of_room {s : Session} {limit : Nat} {question : String}
    (hroom : (s.within limit).hasRoom question = true) : bytesOf (s.asked question).questions ≤ limit := by
  rwa [hasRoom_within, decide_eq_true_eq] at hroom

/-- The questions before the first one that goes past the limit. -/
def UpTo (limit : Nat) (questions asked : List String) : Prop :=
  bytesOf asked ≤ limit
  ∧ ∃ question after, questions = asked ++ question :: after ∧ limit < bytesOf (asked ++ [question])

/-- Later questions make no difference. -/
theorem UpTo.more {limit : Nat} {questions longer asked : List String} (h : UpTo limit questions asked)
    (hlonger : questions <+: longer) : UpTo limit longer asked := by
  obtain ⟨hfits, question, after, rfl, hover⟩ := h
  obtain ⟨later, rfl⟩ := hlonger
  exact ⟨hfits, question, after ++ later, by rw [List.append_assoc]; rfl, hover⟩

/-- **A limited run, beside the free one.**  If all questions fit, it comes to the same.  Else it is
    refused a question, with which the free run goes past the limit, and it has asked what the free
    run asked before. -/
def CutOff (limit : Nat) (free limited : Except Failure α × Session) : Prop :=
  (bytesOf free.2.questions ≤ limit ∧ limited = (free.1, free.2.within limit))
  ∨ (limited.1 = .error (.prompt .outputRefused) ∧ UpTo limit free.2.questions limited.2.questions)

/-- A question that does not fit, of those that the free run goes on with. -/
theorem CutOff.of_no_room {s u : Session} {limit : Nat} {question : String} {result : Except Failure α}
    (hfits : bytesOf s.questions ≤ limit) (hroom : (s.within limit).hasRoom question = false)
    (hasked : s.questions ++ [question] <+: u.questions) :
    CutOff limit (result, u) (.error (.prompt .outputRefused), s.within limit) := by
  rw [hasRoom_within, decide_eq_false_iff_not, Nat.not_le] at hroom
  have hfirst : UpTo limit (s.questions ++ [question]) s.questions := ⟨hfits, question, [], rfl, hroom⟩
  exact Or.inr ⟨rfl, hfirst.more hasked⟩

/-! ## §2. Parts of a dialogue -/

/-- **A part of a dialogue that a limit only cuts off.** -/
structure Cuttable (x : Talk α) : Prop where
  /-- The terminal stays as it is. -/
  limit? : ∀ s : Session, (x.run s).2.limit? = s.limit?
  /-- Questions are only added. -/
  questions : ∀ s : Session, s.questions <+: (x.run s).2.questions
  /-- A limit does nothing else. -/
  cutOff : ∀ (s : Session) (limit : Nat), s.limit? = none → bytesOf s.questions ≤ limit →
    CutOff limit (x.run s) (x.run (s.within limit))

/-- What every part keeps, two parts in a row keep. -/
theorem run_bind_along {R : Session → Session → Prop} (htrans : ∀ {s t u}, R s t → R t u → R s u)
    {x : Talk α} {f : α → Talk β} (hx : ∀ s, R s (x.run s).2) (hf : ∀ a s, R s ((f a).run s).2)
    (s : Session) : R s ((x >>= f).run s).2 := by
  have hfirst := hx s
  match hs : x.run s with
  | (.error failure, u) =>
      rw [hs] at hfirst
      rwa [run_bind_error hs]
  | (.ok a, u) =>
      rw [hs] at hfirst
      rw [run_bind_ok hs]
      exact htrans hfirst (hf a u)

namespace Cuttable

theorem pure (a : α) : Cuttable (Pure.pure a) where
  limit? _ := rfl
  questions s := List.prefix_refl s.questions
  cutOff _ _ _ hfits := Or.inl ⟨hfits, rfl⟩

theorem keepNotices (u : Answer.Understood α) : Cuttable (keepNotices u) where
  limit? _ := rfl
  questions s := List.prefix_refl s.questions
  cutOff _ _ _ hfits := Or.inl ⟨hfits, rfl⟩

/-- What was cut off in the first part is cut off in both. -/
theorem bind {x : Talk α} {f : α → Talk β} (hx : Cuttable x) (hf : ∀ a, Cuttable (f a)) :
    Cuttable (x >>= f) where
  limit? := run_bind_along (R := fun s t => t.limit? = s.limit?) (fun hst htu => htu.trans hst)
    hx.limit? fun a => (hf a).limit?
  questions := run_bind_along (R := fun s t => s.questions <+: t.questions)
    (fun hst htu => hst.trans htu) hx.questions fun a => (hf a).questions
  cutOff s limit hfree hfits := by
    have hfirst := hx.cutOff s limit hfree hfits
    have hlimit := hx.limit? s
    match hs : x.run s, ht : x.run (s.within limit) with
    | (result, u), (limited, t) =>
        rw [hs, ht] at hfirst
        rw [hs] at hlimit
        rcases hfirst with ⟨hfits, heq⟩ | ⟨hrefused, hasked⟩
        · -- the first part fits, and the second one goes on from the same session
          obtain ⟨rfl, rfl⟩ := Prod.mk.inj heq
          cases limited with
          | error failure =>
              rw [run_bind_error hs, run_bind_error ht]
              exact Or.inl ⟨hfits, rfl⟩
          | ok a =>
              rw [run_bind_ok hs, run_bind_ok ht]
              exact (hf a).cutOff u limit (hlimit.trans hfree) hfits
        · -- the refusal ends the limited run, while the free one may go on
          obtain rfl : limited = .error (.prompt .outputRefused) := hrefused
          rw [run_bind_error ht]
          cases result with
          | error failure =>
              rw [run_bind_error hs]
              exact Or.inr ⟨rfl, hasked⟩
          | ok a =>
              rw [run_bind_ok hs]
              exact Or.inr ⟨rfl, hasked.more ((hf a).questions u)⟩

theorem answer (question : String) : Cuttable (answer question) where
  limit? s := by
    cases hroom : s.hasRoom question with
    | false => rw [run_answer_refused hroom]
    | true => rw [run_answer_of_room hroom]; rfl
  questions s := by
    cases hroom : s.hasRoom question with
    | false => simp only [run_answer_refused hroom, List.prefix_refl]
    | true => rw [run_answer_of_room hroom]; exact List.prefix_append s.questions [question]
  cutOff s limit hfree hfits := by
    rw [run_answer hfree]
    cases hroom : (s.within limit).hasRoom question with
    | false =>
        rw [run_answer_refused hroom]
        exact CutOff.of_no_room hfits hroom (List.prefix_refl _)
    | true =>
        rw [run_answer_of_room hroom]
        exact Or.inl ⟨fits_of_room hroom, rfl⟩

end Cuttable

namespace PathRounds

theorem limit? {question : String} {s t : Session} {result : Except Failure (List String)}
    (h : PathRounds question s result t) : t.limit? = s.limit? := by
  induction h with
  | again hroom hlines hentries hnext ih => exact ih
  | _ => rfl

theorem questions {question : String} {s t : Session} {result : Except Failure (List String)}
    (h : PathRounds question s result t) : s.questions <+: t.questions := by
  induction h with
  | refused hroom => exact List.prefix_refl _
  | again hroom hlines hentries hnext ih => exact (List.prefix_append _ _).trans ih
  | _ => exact List.prefix_append _ _

/-- The question that comes next is asked first. -/
theorem asks {question : String} {s t : Session} {result : Except Failure (List String)}
    (h : PathRounds question s result t) (hfree : s.limit? = none) :
    s.questions ++ [question] <+: t.questions := by
  cases h with
  | refused hroom =>
      rw [hasRoom_of_no_limit hfree question] at hroom
      cases hroom
  | again hroom hlines hentries hnext => exact hnext.questions
  | _ => exact List.prefix_refl _

/-- Without room for the question that comes next, the rounds are cut off there. -/
theorem cutOff_of_room {question : String} {s u : Session} {result : Except Failure (List String)}
    {limit : Nat} (hfits : bytesOf s.questions ≤ limit) (hasked : s.questions ++ [question] <+: u.questions)
    (hroom : (s.within limit).hasRoom question = true → ∃ limited t,
      PathRounds question (s.within limit) limited t ∧ CutOff limit (result, u) (limited, t)) :
    ∃ limited t, PathRounds question (s.within limit) limited t ∧ CutOff limit (result, u) (limited, t) := by
  cases hlimit : (s.within limit).hasRoom question with
  | true => exact hroom hlimit
  | false => exact ⟨_, _, .refused hlimit, CutOff.of_no_room hfits hlimit hasked⟩

/-- **The rounds are cut off before the first question that does not fit.** -/
theorem cutOff {question : String} {s u : Session} {result : Except Failure (List String)} {limit : Nat}
    (h : PathRounds question s result u) (hfree : s.limit? = none) (hfits : bytesOf s.questions ≤ limit) :
    ∃ limited t, PathRounds question (s.within limit) limited t ∧ CutOff limit (result, u) (limited, t) := by
  refine cutOff_of_room hfits (h.asks hfree) fun hlimit => ?_
  have hfit := fits_of_room hlimit
  induction h with
  | @refused question s hno =>
      rw [hasRoom_of_no_limit hfree question] at hno
      cases hno
  | ended hroom hlines => exact ⟨_, _, .ended hlimit hlines, Or.inl ⟨hfit, rfl⟩⟩
  | unreadable hroom hlines => exact ⟨_, _, .unreadable hlimit hlines, Or.inl ⟨hfit, rfl⟩⟩
  | named hroom hlines hentries => exact ⟨_, _, .named hlimit hlines hentries, Or.inl ⟨hfit, rfl⟩⟩
  | again hroom hlines hentries hnext ih =>
      -- with room for this question, the rounds go on with the next one
      obtain ⟨limited, t, hrounds, hcut⟩ := cutOff_of_room hfit (hnext.asks hfree) fun hnextRoom =>
        ih hfree hfit hnextRoom (fits_of_room hnextRoom)
      exact ⟨limited, t, .again hlimit hlines hentries hrounds, hcut⟩

end PathRounds

theorem askSourcePaths_cuttable : Cuttable askSourcePaths := by
  have hrounds := fun s : Session => askSourcePaths_eq_iff.mp (rfl : askSourcePaths.run s = (_, _))
  refine ⟨fun s => (hrounds s).limit?, fun s => (hrounds s).questions, fun s limit hfree hfits => ?_⟩
  obtain ⟨limited, t, hlimited, hcut⟩ := (hrounds s).cutOff hfree hfits
  rw [askSourcePaths_eq_iff.mpr hlimited]
  exact hcut

/-- **A limit only cuts off any part of a dialogue.** -/
theorem Spoken.cuttable {x : Talk α} (h : Spoken x) : Cuttable x := by
  induction h with
  | pure a => exact Cuttable.pure a
  | bind hx hf ihx ihf => exact ihx.bind ihf
  | answer question => exact Cuttable.answer question
  | keepNotices u => exact Cuttable.keepNotices u
  | askSourcePaths => exact askSourcePaths_cuttable

/-! ## §3. The dialogue -/

/-- **A terminal that takes only so much.**  If the questions of a dialogue at a terminal without a limit
    fit, a limit changes neither what the dialogue comes to nor what it writes.  Else it breaks off,
    and what is written are the questions before the first one that goes past the limit. -/
theorem runDialogue_limited (base : Settings) (input : ByteArray) (limit : Nat) :
    let free := runDialogue base input
    let limited := runDialogue base input (some limit)
    (free.2.transcript.utf8ByteSize ≤ limit →
      limited.1 = free.1 ∧ limited.2.transcript = free.2.transcript)
    ∧ (limit < free.2.transcript.utf8ByteSize → limited.1 = .error (.prompt .outputRefused)
        ∧ ∃ before question after, free.2.questions = before ++ question :: after
            ∧ (String.join before).utf8ByteSize ≤ limit
            ∧ limit < (String.join (before ++ [question])).utf8ByteSize
            ∧ limited.2.transcript = String.join before) := by
  intro free limited
  have hcut : CutOff limit free limited :=
    (dialogue_spoken base).cuttable.cutOff { lines := inputLines input } limit rfl (Nat.zero_le limit)
  rcases hcut with ⟨hfits, heq⟩ | ⟨hrefused, hbefore, question, after, hquestions, hover⟩
  · rw [heq]
    exact ⟨fun _ => ⟨rfl, rfl⟩, fun hover => absurd hfits (Nat.not_le.mpr hover)⟩
  · -- what goes past the limit is still there at the end
    have hwhole : limit < free.2.transcript.utf8ByteSize := by
      calc limit < bytesOf (limited.2.questions ++ [question]) := hover
        _ ≤ bytesOf (limited.2.questions ++ [question]) + bytesOf after := Nat.le_add_right _ _
        _ = bytesOf free.2.questions := by
            rw [← bytesOf_append, hquestions, List.append_assoc, List.singleton_append]
    refine ⟨fun hfits => absurd hfits (Nat.not_le.mpr hwhole), fun _ => ⟨hrefused, ?_⟩⟩
    exact ⟨limited.2.questions, question, after, hquestions, hbefore, hover, rfl⟩

/-- Room for the first question, but not for the second one. -/
example :
    let limited := runDialogue {} "src\n".toUTF8 (some 70)
    limited.1 = .error (.prompt .outputRefused) ∧ limited.2.transcript = Question.paths := by
  decide +kernel

end TestScaffold
