/-
  TestScaffold.Proofs.Dialogue.Rounds — the question for paths, asked until a line names one.

  The question for paths is a loop without a bound: it ends when a line names a path,
  when the lines are at their end, or when the terminal fails.  `PathRounds` is that loop,
  round by round, and says nothing about how many rounds there may be.  Every round takes
  a line, so the loop ends from every session, and a dialogue comes to what it ends with.

    * `run_bind_ok`, `run_ask_of_room`, `run_answer_of_room` — what single parts of a dialogue come to;
    * `PathRounds` — the rounds from a session to the end of the loop;
    * `exists_pathRounds` — the loop ends;
    * `askSourcePaths_eq_iff` — a dialogue's question for paths comes to the end of the loop;
    * `PathRounds.named_after`, `PathRounds.missing_iff` — which line the paths come from, and
      when there are none;
    * `askSourcePaths_first_entries` — all of it for the lines of a text.
-/
import TestScaffold.Proofs.Dialogue.Input

namespace TestScaffold

/-! ## §1. Running parts of a dialogue -/

theorem run_bind_ok {x : Talk α} {f : α → Talk β} {s t : Session} {a : α}
    (h : x.run s = (.ok a, t)) : (x >>= f).run s = (f a).run t := by
  rw [ExceptT.run_bind]
  simp only [bind, StateT.bind]
  rw [h]

theorem run_bind_error {x : Talk α} {f : α → Talk β} {s t : Session} {failure : Failure}
    (h : x.run s = (.error failure, t)) : (x >>= f).run s = (.error failure, t) := by
  rw [ExceptT.run_bind]
  simp only [bind, StateT.bind]
  rw [h]
  rfl

theorem run_keepNotices (u : Answer.Understood α) (s : Session) :
    (keepNotices u).run s = (.ok u.1, { s with notices := s.notices ++ u.2 }) := rfl

/-- A session after a question. -/
def Session.asked (s : Session) (question : String) : Session :=
  { s with lines := s.lines.tail, questions := s.questions ++ [question] }

/-- A question that the terminal takes is put, and the next line is the answer. -/
theorem run_ask_of_room {s : Session} {question : String} (hroom : s.hasRoom question = true) :
    (ask question).run s = (match s.lines with
      | [] => .ok none
      | some line :: _ => .ok (some (Text.trim line))
      | none :: _ => .error (.prompt .notUtf8), s.asked question) := by
  have hget : (get : Talk Session).run s = (.ok s, s) := rfl
  have hset : (set (s.asked question) : Talk PUnit).run s = (.ok (), s.asked question) := rfl
  rw [ask, run_bind_ok hget, if_pos hroom, ← Session.asked, run_bind_ok hset]
  cases s.lines with
  | nil => rfl
  | cons line rest => cases line <;> rfl

theorem run_ask_refused {s : Session} {question : String} (hroom : s.hasRoom question = false) :
    (ask question).run s = (.error (.prompt .outputRefused), s) := by
  have hget : (get : Talk Session).run s = (.ok s, s) := rfl
  rw [ask, run_bind_ok hget, if_neg (by rw [hroom]; exact Bool.false_ne_true)]
  rfl

theorem run_answer_of_room {s : Session} {question : String} (hroom : s.hasRoom question = true) :
    (answer question).run s = (match s.lines with
      | [] => .ok ""
      | some line :: _ => .ok (Text.trim line)
      | none :: _ => .error (.prompt .notUtf8), s.asked question) := by
  have hask := run_ask_of_room hroom
  rw [answer]
  match hlines : s.lines with
  | [] =>
      rw [hlines] at hask
      rw [run_bind_ok hask]
      rfl
  | some line :: rest =>
      rw [hlines] at hask
      rw [run_bind_ok hask]
      rfl
  | none :: rest =>
      rw [hlines] at hask
      rw [run_bind_error hask]

theorem run_answer_refused {s : Session} {question : String} (hroom : s.hasRoom question = false) :
    (answer question).run s = (.error (.prompt .outputRefused), s) := by
  rw [answer, run_bind_error (run_ask_refused hroom)]

theorem hasRoom_of_no_limit {s : Session} (hs : s.limit? = none) (question : String) :
    s.hasRoom question = true := by
  rw [Session.hasRoom, hs]

theorem run_answer {s : Session} (hs : s.limit? = none) (question : String) :
    (answer question).run s = (match s.lines with
      | [] => .ok ""
      | some line :: _ => .ok (Text.trim line)
      | none :: _ => .error (.prompt .notUtf8), s.asked question) :=
  run_answer_of_room (hasRoom_of_no_limit hs question)

/-! ## §2. The loop -/

/-- White space around an answer adds no entry. -/
theorem Answer.list_trim (line : String) : Answer.list (Text.trim line) = Answer.list line :=
  Text.splitList_trim line

/-- **The rounds of the question for paths**: from a session in which this question comes next, the
    loop ends with this result and in that session. -/
inductive PathRounds : (question : String) → Session → Except Failure (List String) → Session → Prop where
  /-- The terminal takes no question. -/
  | refused {question : String} {s : Session} (hroom : s.hasRoom question = false) :
      PathRounds question s (.error (.prompt .outputRefused)) s
  /-- No line is left. -/
  | ended {question : String} {s : Session} (hroom : s.hasRoom question = true) (hlines : s.lines = []) :
      PathRounds question s (.error .missingPaths) (s.asked question)
  /-- The line is no text. -/
  | unreadable {question : String} {s : Session} {rest : List InputLine}
      (hroom : s.hasRoom question = true) (hlines : s.lines = none :: rest) :
      PathRounds question s (.error (.prompt .notUtf8)) (s.asked question)
  /-- The line has entries: these are the paths. -/
  | named {question : String} {s : Session} {line : String} {rest : List InputLine}
      (hroom : s.hasRoom question = true) (hlines : s.lines = some line :: rest)
      (hentries : Answer.list line ≠ []) :
      PathRounds question s (.ok (Answer.list line)) (s.asked question)
  /-- The line has none, and the next round asks again. -/
  | again {question : String} {s t : Session} {line : String} {rest : List InputLine}
      {result : Except Failure (List String)}
      (hroom : s.hasRoom question = true) (hlines : s.lines = some line :: rest)
      (hentries : Answer.list line = [])
      (hnext : PathRounds Question.pathsAgain (s.asked question) result t) :
      PathRounds question s result t

/-- **The loop ends**: every round takes a line. -/
theorem exists_pathRounds (question : String) (s : Session) : ∃ result t, PathRounds question s result t := by
  induction hlines : s.lines generalizing question s with
  | nil =>
      cases hroom : s.hasRoom question with
      | false => exact ⟨_, _, .refused hroom⟩
      | true => exact ⟨_, _, .ended hroom hlines⟩
  | cons line rest ih =>
      cases hroom : s.hasRoom question with
      | false => exact ⟨_, _, .refused hroom⟩
      | true =>
          cases line with
          | none => exact ⟨_, _, .unreadable hroom hlines⟩
          | some line =>
              by_cases hentries : Answer.list line = []
              · have hrest : (s.asked question).lines = rest := by rw [Session.asked, hlines]; rfl
                obtain ⟨result, t, hnext⟩ := ih Question.pathsAgain (s.asked question) hrest
                exact ⟨result, t, .again hroom hlines hentries hnext⟩
              · exact ⟨_, _, .named hroom hlines hentries⟩

/-- With more rounds than lines, the rounds do not run out before the loop ends. -/
theorem PathRounds.run {question : String} {s t : Session} {result : Except Failure (List String)}
    (h : PathRounds question s result t) {rounds : Nat} (hrounds : s.lines.length ≤ rounds) :
    (askSourcePathsFrom (rounds + 1) question).run s = (result, t) := by
  induction h generalizing rounds with
  | refused hroom => rw [askSourcePathsFrom, run_bind_error (run_ask_refused hroom)]
  | ended hroom hlines =>
      have hask := run_ask_of_room hroom
      rw [hlines] at hask
      rw [askSourcePathsFrom, run_bind_ok hask]
      rfl
  | unreadable hroom hlines =>
      have hask := run_ask_of_room hroom
      rw [hlines] at hask
      rw [askSourcePathsFrom, run_bind_error hask]
  | @named question s line rest hroom hlines hentries =>
      have hask := run_ask_of_room hroom
      rw [hlines] at hask
      rw [askSourcePathsFrom, run_bind_ok hask]
      dsimp only
      obtain ⟨path, paths, hlist⟩ := List.exists_cons_of_ne_nil hentries
      rw [Answer.list_trim, hlist]
      rfl
  | @again question s t line rest result hroom hlines hentries hnext ih =>
      have hask := run_ask_of_room hroom
      rw [hlines] at hask hrounds
      rw [askSourcePathsFrom, run_bind_ok hask]
      dsimp only
      rw [Answer.list_trim, hentries]
      -- one line is read, and one round is left less
      obtain ⟨fewer, rfl⟩ := Nat.exists_eq_add_one_of_ne_zero (Nat.ne_zero_of_lt hrounds)
      apply ih
      rw [Session.asked, hlines]
      exact Nat.le_of_succ_le_succ hrounds

/-- **A dialogue's question for paths comes to the end of the loop**, and to nothing else. -/
theorem askSourcePaths_eq_iff {s t : Session} {result : Except Failure (List String)} :
    askSourcePaths.run s = (result, t) ↔ PathRounds Question.paths s result t := by
  have hrun : ∀ {result t}, PathRounds Question.paths s result t → askSourcePaths.run s = (result, t) := by
    intro result t h
    have hget : (get : Talk Session).run s = (.ok s, s) := rfl
    rw [askSourcePaths, run_bind_ok hget]
    exact h.run (Nat.le_refl _)
  refine ⟨fun h => ?_, hrun⟩
  obtain ⟨ended, u, hrounds⟩ := exists_pathRounds Question.paths s
  rw [hrun hrounds] at h
  cases h
  exact hrounds

/-! ## §3. Where the paths come from -/

namespace PathRounds

/-- The first line with entries names the paths; every line before it is asked about once more. -/
theorem named_after {before : List String} {line : String} {rest : List InputLine} {s : Session}
    (question : String) (hs : s.limit? = none)
    (hlines : s.lines = before.map some ++ some line :: rest)
    (hbefore : ∀ l ∈ before, Answer.list l = []) (hentries : Answer.list line ≠ []) :
    PathRounds question s (.ok (Answer.list line))
      { s with
        lines := rest
        questions := s.questions ++ question :: List.replicate before.length Question.pathsAgain } := by
  induction before generalizing s question with
  | nil =>
      have hnamed := PathRounds.named (hasRoom_of_no_limit hs question) hlines hentries
      rwa [Session.asked, hlines] at hnamed
  | cons first before ih =>
      have hagain : (s.asked question).lines = before.map some ++ some line :: rest := by
        rw [Session.asked, hlines]
        rfl
      have hnext := ih (s := s.asked question) Question.pathsAgain hs hagain
        fun l hl => hbefore l (List.mem_cons_of_mem first hl)
      have hrounds := PathRounds.again (hasRoom_of_no_limit hs question) hlines
        (hbefore first List.mem_cons_self) hnext
      rwa [Session.asked, List.append_assoc, List.singleton_append] at hrounds

/-- On lines that are texts, paths are missing exactly if no line has an entry. -/
theorem missing_iff {question : String} {s t : Session} {result : Except Failure (List String)}
    (h : PathRounds question s result t) {lines : List String} (hs : s.limit? = none)
    (hlines : s.lines = lines.map some) :
    result = .error .missingPaths ↔ ∀ l ∈ lines, Answer.list l = [] := by
  induction h generalizing lines with
  | @refused question s hroom =>
      rw [hasRoom_of_no_limit hs question] at hroom
      cases hroom
  | ended hroom hnil =>
      rw [List.map_eq_nil_iff.mp (hlines.symm.trans hnil)]
      simp
  | unreadable hroom hnone =>
      obtain ⟨l, ls, -, hl, -⟩ := List.map_eq_cons_iff.mp (hlines.symm.trans hnone)
      cases hl
  | named hroom hsome hentries =>
      obtain ⟨l, ls, rfl, hl, -⟩ := List.map_eq_cons_iff.mp (hlines.symm.trans hsome)
      cases hl
      simp [hentries]
  | @again question s t line rest result hroom hsome hentries hnext ih =>
      obtain ⟨l, ls, rfl, hl, hls⟩ := List.map_eq_cons_iff.mp (hlines.symm.trans hsome)
      cases hl
      rw [ih hs (by rw [Session.asked, hsome, ← hls]; rfl), List.forall_mem_cons]
      simp [hentries]

end PathRounds

/-- **The question for paths is asked until a line of the input names one.**  On the lines of any text,
    the loop ends.  The first line in which something stands between two separators names the paths:
    it is the last line that is read, the opening question was put once, and the other one once for
    every line before it.  Paths are missing exactly if there is no such line. -/
theorem askSourcePaths_first_entries (text : String) (questions : List String) (notices : List Notice) :
    ∃ lines : List String, inputLines text.toUTF8 = lines.map some ∧ String.join lines = text ∧
      let start : Session := { lines := inputLines text.toUTF8, questions, notices }
      PathRounds Question.paths start (askSourcePaths.run start).1 (askSourcePaths.run start).2
      ∧ (∀ before line after, lines = before ++ line :: after →
          (∀ l ∈ before, ¬ Text.HasEntry l) → Text.HasEntry line →
          askSourcePaths.run start = (.ok (Answer.list line),
            { start with
              lines := after.map some
              questions := questions
                ++ Question.paths :: List.replicate before.length Question.pathsAgain }))
      ∧ ((askSourcePaths.run start).1 = .error .missingPaths ↔ ∀ l ∈ lines, ¬ Text.HasEntry l) := by
  obtain ⟨lines, hlines, hjoin⟩ := inputLines_text text
  refine ⟨lines, hlines, hjoin, ?_⟩
  intro start
  have hentries : ∀ l, Answer.list l = [] ↔ ¬ Text.HasEntry l := fun l => Text.splitList_eq_nil_iff
  have hrounds : PathRounds Question.paths start (askSourcePaths.run start).1 (askSourcePaths.run start).2 :=
    askSourcePaths_eq_iff.mp rfl
  refine ⟨hrounds, ?_, ?_⟩
  · intro before line after hsplit hbefore hline
    refine askSourcePaths_eq_iff.mpr (PathRounds.named_after Question.paths rfl ?_ ?_ ?_)
    · show inputLines text.toUTF8 = _
      rw [hlines, hsplit, List.map_append, List.map_cons]
    · exact fun l hl => (hentries l).mpr (hbefore l hl)
    · exact fun hnil => (hentries line).mp hnil hline
  · rw [hrounds.missing_iff rfl hlines]
    exact forall₂_congr fun l _ => hentries l

theorem askSourcePaths_third_line :
    askSourcePaths.run { lines := inputLines "\n ; \nsrc;lib\ny".toUTF8 }
      = (.ok ["src", "lib"],
          { lines := [some "y"]
            questions := [Question.paths, Question.pathsAgain, Question.pathsAgain] }) := by
  have htyped : inputLines "\n ; \nsrc;lib\ny".toUTF8 = ["\n", " ; \n", "src;lib\n", "y"].map some := by
    decide +kernel
  obtain ⟨lines, hlines, -, -, hfirst, -⟩ := askSourcePaths_first_entries "\n ; \nsrc;lib\ny" [] []
  have hsame : lines = ["\n", " ; \n", "src;lib\n", "y"] :=
    (List.map_inj_right fun _ _ => Option.some.inj).mp (hlines.symm.trans htyped)
  have hrun := hfirst ["\n", " ; \n"] "src;lib\n" ["y"] hsame (by decide +kernel) (by decide +kernel)
  have hpaths : Answer.list "src;lib\n" = ["src", "lib"] := by decide +kernel
  rw [hpaths] at hrun
  exact hrun

end TestScaffold
