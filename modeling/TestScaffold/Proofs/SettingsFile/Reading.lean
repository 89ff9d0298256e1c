/-
  TestScaffold.Proofs.SettingsFile.Reading — a text is read as the value that it stands for.

  The readers look ahead one character at a time and remark on the first fault they meet.
  On the text of a value that is the same as decoding the value: the same settings come
  out, or none do, and what follows the text is left.

    * `Reads` — a reader decodes the texts of values, wherever they stand;
    * `remaining` — the parts of an array or object that are still to come;
    * `reads_text`, `reads_flag`, `reads_size`, `reads_texts`, `reads_choice` — the fields;
    * `reads_group` — an object or an array of fields;
    * `toOption_readSettings` — a whole text.
-/
import TestScaffold.Proofs.SettingsFile.Decoding
import TestScaffold.Proofs.SettingsFile.Scalars
import TestScaffold.Proofs.Text.Split

namespace TestScaffold.SettingsFile.Json

/-! ## §1. Readers -/

/-- What a reader gives on a text, and what it leaves. -/
def result (reader : Reader α) (cs : List Char) : Option (α × List Char) :=
  (reader.run cs).toOption

section Readers

variable {α β : Type}

@[simp] theorem result_pure (a : α) (cs : List Char) : result (pure a) cs = some (a, cs) := rfl

@[simp] theorem result_bind (x : Reader α) (f : α → Reader β) (cs : List Char) :
    result (x >>= f) cs = (result x cs).bind fun p => result (f p.1) p.2 := by
  unfold result
  rw [StateT.run_bind]
  cases x.run cs with
  | error trouble => rfl
  | ok p => rfl

@[simp] theorem result_get (cs : List Char) : result get cs = some (cs, cs) := rfl

@[simp] theorem result_malformed (cs : List Char) : result (malformed : Reader α) cs = none := rfl

@[simp] theorem result_unfit (what : Mismatch) (cs : List Char) :
    result (unfit what : Reader α) cs = none := rfl

theorem dropWhile_white {before : List Char} (h : White before) {c : Char} (hc : isSpace c = false)
    (cs : List Char) : (before ++ c :: cs).dropWhile isSpace = c :: cs := by
  rw [List.dropWhile_append_of_pos h, List.dropWhile_cons, hc]
  rfl

theorem result_look (cs : List Char) :
    result look cs = some ((cs.dropWhile isSpace).head?, cs.dropWhile isSpace) := rfl

/-- White space plays no part in what is looked at. -/
theorem result_look_cons {before : List Char} (h : White before) {c : Char}
    (hc : isSpace c = false) (cs : List Char) :
    result look (before ++ c :: cs) = some (some c, c :: cs) := by
  rw [result_look, dropWhile_white h hc]
  rfl

theorem result_eat {before : List Char} (h : White before) {c d : Char} (hd : isSpace d = false)
    (cs : List Char) :
    result (eat c) (before ++ d :: cs) = if d = c then some ((), cs) else none := by
  unfold result eat StateT.run
  simp only [dropWhile_white h hd]
  split <;> rfl

theorem result_word (letters : String) (cs : List Char) :
    result (word letters) (letters.toList ++ cs) = some ((), cs) := by
  unfold result word StateT.run
  simp [← String.length_toList, Except.toOption]

theorem result_readString {before : List Char} (h : White before) {text : String} {cs : List Char}
    (hcs : Quoted text cs) (rest : List Char) :
    result readString (before ++ (cs ++ rest)) = some (text, rest) := by
  obtain ⟨body, hbody, rfl⟩ := hcs
  have hquote : (before ++ ('"' :: (body ++ ['"']) ++ rest)).dropWhile isSpace
      = '"' :: (body ++ '"' :: rest) := by
    rw [List.cons_append, dropWhile_white h rfl, List.append_assoc]
    rfl
  unfold result readString StateT.run
  simp only [hquote, stringBody_body hbody]
  simp [Except.map, Except.toOption]

/-- A remark is no result, whatever stands there. -/
@[simp] theorem result_misfit (expected : String) (cs : List Char) :
    result (misfit expected : Reader α) cs = none := by
  unfold misfit
  simp only [result_bind, result_look, Option.bind_some]
  split
  case h_7 => split <;> simp
  all_goals simp

end Readers

/-! ## §2. Values -/

/-- Whether the text of a value may begin with a character. -/
def Value.opens : Value → Char → Bool
  | .null, c => c == 'n'
  | .flag b, c => c == if b then 't' else 'f'
  | .number _, c => c == '-' || c.isDigit
  | .text _, c => c == '"'
  | .array _, c => c == '['
  | .object _, c => c == '\x7b'

theorem isSpace_of_opens {v : Value} {c : Char} (h : v.opens c = true) : isSpace c = false := by
  cases hspace : isSpace c with
  | false => rfl
  | true =>
      exfalso
      simp only [isSpace, Bool.or_eq_true, beq_iff_eq] at hspace
      rcases hspace with ((rfl | rfl) | rfl) | rfl
      all_goals
        cases v with
        | flag b => cases b <;> cases h
        | _ => cases h

/-- The text of a value begins with a character that tells what the value is. -/
theorem Written.head {v : Value} {cs : List Char} (h : Written v cs) :
    ∃ c tail, cs = c :: tail ∧ v.opens c = true := by
  cases h with
  | null => exact ⟨_, _, rfl, rfl⟩
  | flag value => cases value <;> exact ⟨_, _, rfl, rfl⟩
  | number n =>
      obtain ⟨d, ds, hcons⟩ := List.exists_cons_of_ne_nil n.whole.nonempty
      have hd : d.isDigit = true :=
        List.all_eq_true.mp n.whole.decimal d (hcons ▸ List.mem_cons_self)
      cases hminus : n.minus with
      | true => exact ⟨'-', n.whole.chars ++ n.tail, by simp [Numeral.chars, hminus], rfl⟩
      | false =>
          exact ⟨d, ds ++ n.tail, by simp [Numeral.chars, hminus, hcons], by simp [Value.opens, hd]⟩
  | text hquoted =>
      obtain ⟨body, -, rfl⟩ := hquoted
      exact ⟨_, _, rfl, rfl⟩
  | emptyArray _ | array _ _ | emptyObject _ | object _ _ => exact ⟨_, _, rfl, rfl⟩

/-- A reader decodes values: from the text of a value, with white space before it, it gives what the
    value decodes to, and leaves what follows. -/
structure Reads (reader : Reader α) (decode : Value → Option α) : Prop where
  /-- What comes out. -/
  result_eq : ∀ {v : Value} {before cs rest : List Char}, White before → Written v cs → Ends rest →
    result reader (before ++ (cs ++ rest)) = (decode v).map (·, rest)

theorem Reads.map {reader : Reader α} {decode : Value → Option α} (h : Reads reader decode)
    (f : α → β) : Reads (do return f (← reader)) (fun v => (decode v).map f) := by
  refine ⟨fun {v before cs rest} hbefore hv hrest => ?_⟩
  rw [result_bind, h.result_eq hbefore hv hrest]
  cases decode v <;> simp

/-- A reader that looks ahead first may take the first character of the value for granted. -/
theorem reads_of_head {next : Option Char → Reader α} {decode : Value → Option α}
    (h : ∀ {v : Value} {c : Char} {tail rest : List Char}, v.opens c = true →
      Written v (c :: tail) → Ends rest →
      result (next (some c)) (c :: tail ++ rest) = (decode v).map (·, rest)) :
    Reads (look >>= next) decode := by
  refine ⟨fun {v before cs rest} hbefore hv hrest => ?_⟩
  obtain ⟨c, tail, rfl, hopens⟩ := hv.head
  rw [result_bind, List.cons_append, result_look_cons hbefore (isSpace_of_opens hopens),
    Option.bind_some]
  exact h hopens hv hrest

namespace Value

theorem eq_null {v : Value} (h : v.opens 'n' = true) : v = .null := by
  cases v with
  | null => rfl
  | flag b => cases b <;> cases h
  | _ => cases h

theorem eq_flag {v : Value} {b : Bool} (h : v.opens (if b then 't' else 'f') = true) :
    v = .flag b := by
  cases v with
  | flag b' => cases b <;> cases b' <;> first | rfl | cases h
  | _ => cases b <;> cases h

theorem eq_text {v : Value} (h : v.opens '"' = true) : ∃ t, v = .text t := by
  cases v with
  | text t => exact ⟨t, rfl⟩
  | flag b => cases b <;> cases h
  | _ => cases h

theorem eq_array {v : Value} (h : v.opens '[' = true) : ∃ vs, v = .array vs := by
  cases v with
  | array vs => exact ⟨vs, rfl⟩
  | flag b => cases b <;> cases h
  | _ => cases h

theorem eq_object {v : Value} (h : v.opens '\x7b' = true) : ∃ ms, v = .object ms := by
  cases v with
  | object ms => exact ⟨ms, rfl⟩
  | flag b => cases b <;> cases h
  | _ => cases h

theorem eq_number {v : Value} {c : Char} (h : v.opens c = true)
    (hc : (c == '-' || c.isDigit) = true) : ∃ n, v = .number n := by
  have hne : c ≠ 'n' ∧ c ≠ 't' ∧ c ≠ 'f' ∧ c ≠ '"' ∧ c ≠ '[' ∧ c ≠ '\x7b' := by
    refine ⟨?_, ?_, ?_, ?_, ?_, ?_⟩
    all_goals
      rintro rfl
      cases hc
  cases v with
  | number n => exact ⟨n, rfl⟩
  | flag b => cases b <;> simp_all [opens]
  | _ => simp_all [opens]

end Value

theorem reads_text (expected : String) : Reads (readText expected) Value.text? := by
  refine reads_of_head fun {v c tail rest} hopens hv _ => ?_
  split
  · rename_i hquote
    cases hquote
    obtain ⟨t, rfl⟩ := Value.eq_text hopens
    cases hv with
    | text hquoted => exact result_readString white_nil hquoted rest
  · rename_i hquote
    rw [result_misfit]
    cases v with
    | text t => exact absurd (congrArg some (eq_of_beq hopens)) hquote
    | _ => rfl

theorem reads_flag : Reads readFlag Value.flag? := by
  refine reads_of_head fun {v c tail rest} hopens hv _ => ?_
  split
  · rename_i htrue
    cases htrue
    obtain rfl := Value.eq_flag (b := true) hopens
    generalize hcs : 't' :: tail = cs at hv ⊢
    cases hv with
    | flag _ => rw [result_bind]; exact congrArg (Option.bind · _) (result_word "true" rest)
  · rename_i hfalse
    cases hfalse
    obtain rfl := Value.eq_flag (b := false) hopens
    generalize hcs : 'f' :: tail = cs at hv ⊢
    cases hv with
    | flag _ => rw [result_bind]; exact congrArg (Option.bind · _) (result_word "false" rest)
  · rename_i htrue hfalse
    rw [result_misfit]
    cases v with
    | flag b =>
        cases b
        · exact absurd (congrArg some (eq_of_beq hopens)) hfalse
        · exact absurd (congrArg some (eq_of_beq hopens)) htrue
    | _ => rfl

theorem reads_size : Reads readSize Value.size? := by
  refine reads_of_head fun {v c tail rest} hopens hv hrest => ?_
  dsimp only
  split
  · rename_i hnumber
    obtain ⟨n, rfl⟩ := Value.eq_number hopens hnumber
    generalize hcs : c :: tail = cs at hv ⊢
    cases hv with
    | number _ =>
        have hnone : (∀ k after, readNumber (n.chars ++ rest) ≠ .ok (.natural k, after)) →
            (Value.number n).size? = none := by
          intro hnatural
          refine Option.eq_none_iff_forall_not_mem.mpr fun k hk => ?_
          obtain ⟨hvalue, hfits⟩ := Option.filter_eq_some_iff.mp hk
          exact hnatural k rest
            ((readNumber_natural_iff n hrest).mpr ⟨hvalue, of_decide_eq_true hfits, rfl⟩)
        rw [result_bind, result, StateT.run]
        cases hread : readNumber (n.chars ++ rest) with
        | error trouble =>
            rw [hnone fun k after h => nomatch hread.symm.trans h]
            rfl
        | ok found =>
            obtain ⟨x, after⟩ := found
            cases x with
            | natural k =>
                obtain ⟨hvalue, hfits, rfl⟩ := (readNumber_natural_iff n hrest).mp hread
                rw [Value.size?, hvalue, Option.filter_some, if_pos (decide_eq_true hfits)]
                rfl
            | negative | float =>
                rw [hnone fun k after h => nomatch hread.symm.trans h]
                rfl
  · rename_i hnumber
    rw [result_misfit]
    cases v with
    | number n => exact absurd hopens hnumber
    | _ => rfl

/-! ## §3. Parts -/

/-- White space before a mark may follow a value. -/
theorem ends_append {space more : List Char} (hspace : White space)
    (hmore : ∀ c ∈ more.head?, c ∈ marks) : Ends (space ++ more) := by
  intro c hc
  cases space with
  | nil => exact .inr (hmore c hc)
  | cons d ds =>
      cases hc
      exact .inl (hspace c List.mem_cons_self)

/-- An element is white space, a value that begins with a character, and white space. -/
theorem Element.parts {v : Value} {cs : List Char} (h : Element v cs) :
    ∃ before c tail after, White before ∧ v.opens c = true ∧ Written v (c :: tail) ∧ White after
      ∧ cs = before ++ (c :: tail ++ after) := by
  obtain ⟨hbefore, hv, hafter⟩ := h
  obtain ⟨c, tail, rfl, hopens⟩ := hv.head
  exact ⟨_, c, tail, _, hbefore, hopens, hv, hafter, rfl⟩

/-- What stands before a part: a comma, unless the part is the first. -/
def lead : (first : Bool) → (space : List Char) → List Char
  | true, space => space
  | false, space => space ++ [',']

/-- The parts of an array or object that are still to come, up to its end and what follows it. -/
def remaining {γ : Type} (close : Char) (rest : List Char) :
    (first : Bool) → (space : List Char) → List (γ × List Char) → List Char
  | _, space, [] => space ++ close :: rest
  | first, space, part :: parts =>
    lead first space ++ (part.2 ++ remaining close rest false [] parts)

section Remaining

variable {γ : Type} {close : Char} {rest : List Char}

/-- White space before a comma or the end. -/
theorem append_remaining (space : List Char) (parts : List (γ × List Char)) :
    space ++ remaining close rest false [] parts = remaining close rest false space parts := by
  cases parts <;> simp [remaining, lead]

/-- Behind a part stands a mark. -/
theorem head?_remaining (hclose : close ∈ marks) (parts : List (γ × List Char)) :
    ∀ c ∈ (remaining close rest false [] parts).head?, c ∈ marks := by
  intro c hc
  cases parts with
  | nil =>
      cases hc
      exact hclose
  | cons part parts =>
      cases hc
      decide

/-- Every part takes a character, with the comma behind it or the end. -/
theorem length_le_remaining (first : Bool) (space : List Char) (parts : List (γ × List Char)) :
    parts.length ≤ (remaining close rest first space parts).length := by
  have hlater : ∀ parts : List (γ × List Char),
      parts.length < (remaining close rest false [] parts).length := by
    intro parts
    induction parts with
    | nil => exact Nat.succ_pos _
    | cons part parts ih =>
        simp only [remaining, lead, List.length_append, List.length_cons]
        omega
  cases parts with
  | nil => exact Nat.zero_le _
  | cons part parts =>
      have htail := hlater parts
      simp only [remaining, List.length_append, List.length_cons]
      omega

/-- Parts with commas between them, and the closing mark. -/
theorem intercalate_remaining {parts : List (γ × List Char)} (hne : parts ≠ []) :
    [','].intercalate (parts.map (·.2)) ++ close :: rest = remaining close rest true [] parts := by
  have hlater : ∀ parts : List (γ × List Char),
      (parts.map (·.2)).flatMap (',' :: ·) ++ close :: rest
        = remaining close rest false [] parts := by
    intro parts
    induction parts with
    | nil => rfl
    | cons part parts ih => simp [remaining, lead, ← ih]
  obtain ⟨part, parts, rfl⟩ := List.exists_cons_of_ne_nil hne
  have hjoin := Text.append_intercalate_self [','] (List.cons_ne_nil part.2 (parts.map (·.2)))
  rw [List.flatMap_cons] at hjoin
  have hcommas : [','].intercalate (part.2 :: parts.map (·.2))
      = part.2 ++ (parts.map (·.2)).flatMap (',' :: ·) := List.tail_eq_of_cons_eq hjoin
  rw [List.map_cons, hcommas, List.append_assoc, hlater]
  rfl

end Remaining

/-! ## §4. Arrays -/

theorem result_hasElement_close {space : List Char} (h : White space) (first : Bool)
    (cs : List Char) : result (hasElement first) (space ++ ']' :: cs) = some (false, cs) := by
  unfold hasElement
  rw [result_bind, result_look_cons h rfl, Option.bind_some]
  show result (eat ']' >>= fun _ => pure false) ([] ++ ']' :: cs) = _
  rw [result_bind, result_eat white_nil rfl]
  rfl

theorem Value.opens_ne {v : Value} {c : Char} (h : v.opens c = true) : c ≠ ']' ∧ c ≠ ',' := by
  refine ⟨?_, ?_⟩
  all_goals
    rintro rfl
    cases v with
    | flag b => cases b <;> cases h
    | _ => cases h

theorem white_append {space before : List Char} (hspace : White space) (hbefore : White before) :
    White (space ++ before) :=
  fun c hc => (List.mem_append.mp hc).elim (hspace c) (hbefore c)

theorem result_hasElement {first : Bool} {space before : List Char} (hspace : White space)
    (hbefore : White before) {v : Value} {c : Char} (hc : v.opens c = true) (cs : List Char) :
    result (hasElement first) (lead first space ++ (before ++ c :: cs)) = some (true, c :: cs) := by
  have hgap := isSpace_of_opens hc
  obtain ⟨hclose, hcomma⟩ := Value.opens_ne hc
  unfold hasElement
  cases first with
  | true =>
      show result _ (space ++ (before ++ c :: cs)) = _
      rw [← List.append_assoc, result_bind, result_look_cons (white_append hspace hbefore) hgap,
        Option.bind_some]
      dsimp only
      split
      · exact absurd (Option.some.inj ‹_›) hclose
      · exact absurd (Option.some.inj ‹_›) hcomma
      · rfl
      · cases ‹some c = none›
  | false =>
      show result _ (space ++ [','] ++ (before ++ c :: cs)) = _
      rw [List.append_assoc, result_bind, List.singleton_append, result_look_cons hspace rfl,
        Option.bind_some]
      show result (eat ',' >>= fun _ => look >>= _) ([] ++ ',' :: (before ++ c :: cs)) = _
      rw [result_bind, result_eat white_nil rfl, if_pos rfl, Option.bind_some, result_bind,
        result_look_cons hbefore hgap, Option.bind_some]
      dsimp only
      split
      · exact absurd (Option.some.inj ‹_›) hclose
      · rfl

/-- An array that should end does not go on with an element. -/
theorem result_eat_lead (first : Bool) {space : List Char} (hspace : White space) {v : Value}
    {cs : List Char} (h : Element v cs) (more : List Char) :
    result (eat ']') (lead first space ++ (cs ++ more)) = none := by
  obtain ⟨before, c, tail, after, hbefore, hopens, -, -, rfl⟩ := h.parts
  cases first with
  | true =>
      simp only [lead, List.append_assoc, List.cons_append]
      rw [← List.append_assoc, result_eat (white_append hspace hbefore) (isSpace_of_opens hopens),
        if_neg (Value.opens_ne hopens).1]
  | false =>
      rw [lead, List.append_assoc, List.singleton_append, result_eat hspace rfl,
        if_neg (by decide)]

/-- **One element** is found, and then any reader of values decodes it, but for the white space
    after it. -/
theorem result_element (first : Bool) {space : List Char} (hspace : White space) {v : Value}
    {cs more : List Char} (h : Element v cs) (hmore : ∀ c ∈ more.head?, c ∈ marks) :
    ∃ text after, White after
      ∧ result (hasElement first) (lead first space ++ (cs ++ more)) = some (true, text)
      ∧ ∀ {α : Type} {reader : Reader α} {decode : Value → Option α}, Reads reader decode →
        result reader text = (decode v).map (·, after ++ more) := by
  obtain ⟨before, c, tail, after, hbefore, hopens, hv, hafter, rfl⟩ := h.parts
  refine ⟨c :: (tail ++ (after ++ more)), after, hafter, ?_, fun hreads => ?_⟩
  · simp only [List.append_assoc, List.cons_append]
    exact result_hasElement hspace hbefore hopens _
  · exact hreads.result_eq white_nil hv (ends_append hafter hmore)

/-- Strings up to the end of their array. -/
theorem result_readTextsFrom {elements : List (Value × List Char)}
    (h : ∀ e ∈ elements, Element e.1 e.2) {fuel : Nat} (hfuel : elements.length < fuel)
    (first : Bool) {space : List Char} (hspace : White space) (rest : List Char) :
    result (readTextsFrom fuel first) (remaining ']' rest first space elements)
      = ((elements.map (·.1)).mapM Value.text?).map (·, rest) := by
  obtain ⟨fuel, rfl⟩ : ∃ n, fuel = n + 1 := ⟨fuel - 1, by omega⟩
  induction elements generalizing fuel first space with
  | nil =>
      rw [readTextsFrom, result_bind, remaining, result_hasElement_close hspace]
      rfl
  | cons e elements ih =>
      obtain ⟨fuel, rfl⟩ : ∃ n, fuel = n + 1 := ⟨fuel - 1, by simp at hfuel; omega⟩
      obtain ⟨text, after, hafter, hgoes, hread⟩ := result_element first hspace
        (h e List.mem_cons_self) (@head?_remaining _ ']' rest (by decide) elements)
      have hmore := ih (fun e he => h e (List.mem_cons_of_mem _ he)) false hafter fuel
        (Nat.lt_of_succ_lt_succ hfuel)
      rw [readTextsFrom, remaining, result_bind, hgoes, Option.bind_some]
      dsimp only
      rw [if_pos rfl, result_bind, hread (reads_text "a string"), append_remaining, List.map_cons,
        List.mapM_cons]
      cases e.1.text? with
      | none => rfl
      | some text =>
          simp only [Option.map_some, Option.bind_some, result_bind, hmore, result_pure]
          cases (elements.map (·.1)).mapM Value.text? <;> rfl

/-- The text of an array is its elements and its end. -/
theorem Written.array_remaining {vs : List Value} {tail : List Char}
    (h : Written (.array vs) ('[' :: tail)) :
    ∃ (space : List Char) (elements : List (Value × List Char)), White space
      ∧ (∀ e ∈ elements, Element e.1 e.2) ∧ vs = elements.map (·.1)
      ∧ ∀ rest, tail ++ rest = remaining ']' rest true space elements := by
  generalize hcs : '[' :: tail = cs at h
  cases h with
  | @emptyArray space hspace =>
      cases hcs
      exact ⟨space, [], hspace, by simp, rfl, fun rest => by simp [remaining]⟩
  | @array elements hne helements =>
      cases hcs
      refine ⟨[], elements, white_nil, helements, rfl, fun rest => ?_⟩
      rw [List.append_assoc, List.singleton_append, intercalate_remaining hne]

theorem reads_texts : Reads readTexts Value.texts? := by
  refine reads_of_head fun {v c tail rest} hopens hv _ => ?_
  split
  · rename_i hopen
    cases hopen
    obtain ⟨vs, rfl⟩ := Value.eq_array hopens
    obtain ⟨space, elements, hspace, helements, rfl, htail⟩ := hv.array_remaining
    rw [result_bind, List.cons_append, ← List.nil_append ('[' :: _), result_eat white_nil rfl,
      if_pos rfl, Option.bind_some, result_bind, result_get, Option.bind_some, htail]
    exact result_readTextsFrom helements (Nat.lt_succ_of_le (length_le_remaining _ _ _)) true hspace
      rest
  · rename_i hopen
    rw [result_misfit]
    cases v with
    | array vs => exact absurd (congrArg some (eq_of_beq hopens)) hopen
    | _ => rfl

/-- An element is decoded before a mark, but for the white space after it. -/
theorem Reads.element {reader : Reader α} {decode : Value → Option α} (h : Reads reader decode)
    {v : Value} {cs more : List Char} (hv : Element v cs) (hmore : ∀ c ∈ more.head?, c ∈ marks) :
    ∃ after, White after ∧ result reader (cs ++ more) = (decode v).map (·, after ++ more) := by
  obtain ⟨hbefore, hwritten, hafter⟩ := hv
  refine ⟨_, hafter, ?_⟩
  rw [List.append_assoc, List.append_assoc]
  exact h.result_eq hbefore hwritten (ends_append hafter hmore)

/-! ## §5. Choices -/

/-- A member is white space, its name, white space, a colon and its value. -/
theorem Member.parts {name : String} {v : Value} {cs : List Char} (h : Member (name, v) cs) :
    ∃ before ks after ds, White before ∧ Quoted name ks ∧ White after ∧ Element v ds
      ∧ cs = before ++ (ks ++ (after ++ ':' :: ds)) := by
  obtain ⟨hbefore, hname, hafter, hv⟩ := h
  exact ⟨_, _, _, _, hbefore, hname, hafter, hv, rfl⟩

/-- The text of an object is its members and its end. -/
theorem Written.object_remaining {ms : List (String × Value)} {tail : List Char}
    (h : Written (.object ms) ('\x7b' :: tail)) :
    ∃ (space : List Char) (members : List ((String × Value) × List Char)), White space
      ∧ (∀ m ∈ members, Member m.1 m.2) ∧ ms = members.map (·.1)
      ∧ ∀ rest, tail ++ rest = remaining '\x7d' rest true space members := by
  generalize hcs : '\x7b' :: tail = cs at h
  cases h with
  | @emptyObject space hspace =>
      cases hcs
      exact ⟨space, [], hspace, by simp, rfl, fun rest => by simp [remaining]⟩
  | @object members hne hmembers =>
      cases hcs
      refine ⟨[], members, white_nil, hmembers, rfl, fun rest => ?_⟩
      rw [List.append_assoc, List.singleton_append, intercalate_remaining hne]

theorem result_readText_close {space : List Char} (h : White space) (expected : String)
    (cs : List Char) : result (readText expected) (space ++ '\x7d' :: cs) = none := by
  unfold readText
  rw [result_bind, result_look_cons h rfl, Option.bind_some]
  exact result_misfit expected _

theorem result_findVariant (variants : List (String × Variant σ)) (name : String) (cs : List Char) :
    result (findVariant variants name) cs = (variants.lookup name).map (·, cs) := by
  unfold findVariant
  cases variants.lookup name <;> rfl

theorem reads_content (choice : Variant σ) (s : σ) :
    Reads (readContent choice s) (fun v => (choice.change? v).map (· s)) := by
  cases choice with
  | unit choose =>
      unfold readContent
      refine reads_of_head fun {v c tail rest} hopens hv _ => ?_
      split
      · rename_i hnull
        cases hnull
        obtain rfl := Value.eq_null hopens
        generalize hcs : 'n' :: tail = cs at hv ⊢
        cases hv with
        | null => rw [result_bind]; exact congrArg (Option.bind · _) (result_word "null" rest)
      · rename_i hnull
        rw [result_misfit]
        cases v with
        | null => exact absurd (congrArg some (eq_of_beq hopens)) hnull
        | _ => rfl
  | text choose =>
      have hdecode : (fun v => ((Variant.text choose).change? v).map (· s))
          = fun v : Value => v.text?.map (choose · s) := by
        funext v
        cases v <;> rfl
      rw [hdecode]
      exact (reads_text "a string").map (choose · s)

/-- A choice with its content is the only member of its object. -/
theorem result_variant (variants : List (String × Variant σ)) (s : σ)
    {members : List ((String × Value) × List Char)} (h : ∀ m ∈ members, Member m.1 m.2)
    {space : List Char} (hspace : White space) (rest : List Char) :
    result
        (do
          let v ← findVariant variants (← readText "variant identifier")
          eat ':'
          let s ← readContent v s
          eat '\x7d'
          return s)
        (remaining '\x7d' rest true space members)
      = (choiceChange? variants (.object (members.map (·.1)))).map fun f => (f s, rest) := by
  cases members with
  | nil =>
      rw [result_bind, remaining, result_readText_close hspace]
      rfl
  | cons m members =>
      obtain ⟨⟨name, content⟩, cs⟩ := m
      obtain ⟨before, ks, after, ds, hbefore, hname, hafter, hcontent, rfl⟩ :=
        (h _ List.mem_cons_self : Member (name, content) cs).parts
      have hcolon : Ends (after ++ ':' :: (ds ++ remaining '\x7d' rest false [] members)) :=
        ends_append hafter (by simp [marks])
      have hvariant := (reads_text "variant identifier").result_eq (white_append hspace hbefore)
        (.text hname) hcolon
      simp only [remaining, lead, List.cons_append, List.append_assoc, List.map_cons] at hvariant ⊢
      rw [result_bind, hvariant, Value.text?, Option.map_some, Option.bind_some, result_bind,
        result_findVariant]
      -- whatever goes wrong, there is no choice with members behind it either
      cases hlookup : variants.lookup name with
      | none => cases members <;> simp [choiceChange?, hlookup]
      | some choice =>
          obtain ⟨after', hafter', hread⟩ := (reads_content choice s).element hcontent
            (@head?_remaining _ '\x7d' rest (by decide) members)
          rw [Option.map_some, Option.bind_some, result_bind, result_eat hafter rfl, if_pos rfl,
            Option.bind_some, result_bind, hread, append_remaining]
          cases hchange : choice.change? content with
          | none => cases members <;> simp [choiceChange?, hlookup, hchange]
          | some f =>
              rw [Option.map_some, Option.map_some, Option.bind_some, result_bind]
              cases members with
              | nil =>
                  rw [remaining, result_eat hafter' rfl, if_pos rfl]
                  simp [choiceChange?, hlookup, hchange]
              | cons m members =>
                  rw [remaining, lead, List.append_assoc, List.singleton_append,
                    result_eat hafter' rfl, if_neg (by decide)]
                  rfl

theorem reads_choice (variants : List (String × Variant σ)) (s : σ) :
    Reads (readChoice variants s) (fun v => (choiceChange? variants v).map (· s)) := by
  unfold readChoice
  refine reads_of_head fun {v c tail rest} hopens hv _ => ?_
  split
  · -- a name
    rename_i hquote
    cases hquote
    obtain ⟨name, rfl⟩ := Value.eq_text hopens
    cases hv with
    | text hquoted =>
        have hname := result_readString white_nil hquoted rest
        rw [List.nil_append] at hname
        rw [result_bind, hname, Option.bind_some, result_bind, result_findVariant, choiceChange?]
        cases variants.lookup name with
        | none => rfl
        | some choice => cases choice <;> rfl
  · -- a name with its content
    rename_i hopen
    cases hopen
    obtain ⟨ms, rfl⟩ := Value.eq_object hopens
    obtain ⟨space, members, hspace, hmembers, rfl, htail⟩ := hv.object_remaining
    rw [result_bind, List.cons_append, ← List.nil_append ('\x7b' :: _), result_eat white_nil rfl,
      if_pos rfl, Option.bind_some, htail, Option.map_map]
    exact result_variant variants s hmembers hspace rest
  · rename_i hquote hopen
    rw [result_malformed]
    cases v with
    | text t => exact absurd (congrArg some (eq_of_beq hopens)) hquote
    | object ms => exact absurd (congrArg some (eq_of_beq hopens)) hopen
    | _ => rfl

/-- The value of a field is decoded as what the field takes. -/
theorem reads_slot (slot : Slot σ) (s : σ) :
    Reads (readSlot slot s) (fun v => (slot.change? v).map (· s)) := by
  have hmap : ∀ {α : Type} {reader : Reader α} {decode : Value → Option α} (put : α → σ → σ),
      Reads reader decode →
        Reads (do return put (← reader) s) (fun v => ((decode v).map put).map (· s)) := by
    intro α reader decode put h
    simpa [Function.comp_def] using h.map (put · s)
  cases slot with
  | text put => exact hmap put (reads_text "a string")
  | flag put => exact hmap put reads_flag
  | size put => exact hmap put reads_size
  | texts put => exact hmap put reads_texts
  | choice variants => exact reads_choice variants s

/-! ## §6. Groups -/

/-- A string begins with a quote. -/
theorem Quoted.head {text : String} {cs : List Char} (h : Quoted text cs) :
    ∃ tail, cs = '"' :: tail := by
  obtain ⟨body, -, rfl⟩ := h
  exact ⟨_, rfl⟩

theorem result_hasMember_close {space : List Char} (h : White space) (first : Bool)
    (cs : List Char) : result (hasMember first) (space ++ '\x7d' :: cs) = some (false, cs) := by
  unfold hasMember
  rw [result_bind, result_look_cons h rfl, Option.bind_some]
  show result (eat '\x7d' >>= fun _ => pure false) ([] ++ '\x7d' :: cs) = _
  rw [result_bind, result_eat white_nil rfl]
  rfl

theorem result_hasMember {first : Bool} {space before : List Char} (hspace : White space)
    (hbefore : White before) (cs : List Char) :
    result (hasMember first) (lead first space ++ (before ++ '"' :: cs))
      = some (true, '"' :: cs) := by
  unfold hasMember
  cases first with
  | true =>
      show result _ (space ++ (before ++ '"' :: cs)) = _
      rw [← List.append_assoc, result_bind, result_look_cons (white_append hspace hbefore) rfl,
        Option.bind_some]
      rfl
  | false =>
      show result _ (space ++ [','] ++ (before ++ '"' :: cs)) = _
      rw [List.append_assoc, result_bind, List.singleton_append, result_look_cons hspace rfl,
        Option.bind_some]
      show result (eat ',' >>= fun _ => look >>= _) ([] ++ ',' :: (before ++ '"' :: cs)) = _
      rw [result_bind, result_eat white_nil rfl, if_pos rfl, Option.bind_some, result_bind,
        result_look_cons hbefore rfl, Option.bind_some]
      rfl

/-- **One member** is found, then its name, a colon and its value. -/
theorem result_member (first : Bool) {space : List Char} (hspace : White space) {name : String}
    {v : Value} {cs : List Char} (h : Member (name, v) cs) (more : List Char) :
    ∃ text after ds, White after ∧ Element v ds
      ∧ result (hasMember first) (lead first space ++ (cs ++ more)) = some (true, text)
      ∧ result readString text = some (name, after ++ ':' :: (ds ++ more)) := by
  obtain ⟨before, ks, after, ds, hbefore, hname, hafter, hv, rfl⟩ := h.parts
  have hkey := result_readString white_nil hname (after ++ ':' :: (ds ++ more))
  obtain ⟨tail, rfl⟩ := hname.head
  refine ⟨_, after, ds, hafter, hv, ?_, hkey⟩
  simp only [List.append_assoc, List.cons_append]
  exact result_hasMember hspace hbefore _

section Groups

variable {σ : Type} {known : List String} {readField : String → σ → Reader σ}
  {field : String → Value → Option (σ → σ)}
  (hfield : ∀ name s, Reads (readField name s) (fun v => (field name v).map (· s)))

include hfield

/-- Members up to the end of their object: a name is looked up before its value is read. -/
theorem result_readMembers {members : List ((String × Value) × List Char)}
    (h : ∀ m ∈ members, Member m.1 m.2) {fuel : Nat} (hfuel : members.length < fuel)
    (seen : List String) (s : σ) {space : List Char} (hspace : White space) (rest : List Char) :
    result (readMembers known readField fuel seen s)
        (remaining '\x7d' rest seen.isEmpty space members)
      = (membersChange? known field seen (members.map (·.1))).map fun f => (f s, rest) := by
  obtain ⟨fuel, rfl⟩ : ∃ n, fuel = n + 1 := ⟨fuel - 1, by omega⟩
  -- only the first member has nothing seen before it, and no comma
  induction members generalizing fuel seen s space with
  | nil =>
      rw [readMembers, result_bind, remaining, result_hasMember_close hspace]
      simp [membersChange?, Admitted, names, changes?]
  | cons m members ih =>
      obtain ⟨⟨name, v⟩, cs⟩ := m
      obtain ⟨fuel, rfl⟩ : ∃ n, fuel = n + 1 := ⟨fuel - 1, by simp at hfuel; omega⟩
      obtain ⟨text, after, ds, hafter, hv, hgoes, hname⟩ := result_member seen.isEmpty hspace
        (h _ List.mem_cons_self) (remaining '\x7d' rest false [] members)
      obtain ⟨space', hspace', hread⟩ := (hfield name s).element hv
        (@head?_remaining _ '\x7d' rest (by decide) members)
      have hrest := fun f : σ → σ => ih (fun m hm => h m (List.mem_cons_of_mem _ hm)) (name :: seen)
        (f s) hspace' fuel (Nat.lt_of_succ_lt_succ hfuel)
      rw [readMembers, remaining, result_bind, hgoes, Option.bind_some]
      dsimp only
      rw [if_pos rfl, result_bind, hname, Option.bind_some, List.map_cons, membersChange?_cons]
      dsimp only
      -- the name decides before the value is looked at, as in `membersChange?_cons`
      by_cases hknown : name ∈ known
      · by_cases hseen : name ∈ seen
        · simp [hknown, hseen]
        · have hnew : name ∈ known ∧ name ∉ seen := ⟨hknown, hseen⟩
          rw [if_neg (by simp [hknown]), if_neg (by simp [hseen]), if_pos hnew, result_bind,
            result_eat hafter rfl, if_pos rfl, Option.bind_some, result_bind, hread,
            append_remaining]
          cases field name v with
          | none => rfl
          | some f =>
              rw [Option.map_some, Option.map_some, Option.bind_some, Option.bind_some,
                Option.map_map]
              exact hrest f
      · simp [hknown]

/-- Elements up to the end of their array are the values of the fields in order. -/
theorem result_readElements {elements : List (Value × List Char)}
    (h : ∀ e ∈ elements, Element e.1 e.2) (fields : List String) (first : Bool) (s : σ)
    {space : List Char} (hspace : White space) (rest : List Char) :
    result (readElements readField fields first s) (remaining ']' rest first space elements)
      = (elementsChange? field fields (elements.map (·.1))).map fun f => (f s, rest) := by
  induction elements generalizing fields first s space with
  | nil =>
      cases fields with
      | nil =>
          rw [readElements, result_bind, remaining, result_eat hspace rfl]
          rfl
      | cons name fields =>
          rw [readElements, result_bind, remaining, result_hasElement_close hspace]
          rfl
  | cons e elements ih =>
      obtain ⟨v, cs⟩ := e
      have hvalue : Element v cs := h _ List.mem_cons_self
      have hmore := @head?_remaining _ ']' rest (by decide) elements
      cases fields with
      | nil =>
          rw [readElements, result_bind, remaining, result_eat_lead first hspace hvalue]
          rfl
      | cons name fields =>
          obtain ⟨text, after, hafter, hgoes, hread⟩ := result_element first hspace hvalue hmore
          have hrest := fun f : σ → σ => ih (fun e he => h e (List.mem_cons_of_mem _ he)) fields
            false (f s) hafter
          rw [readElements, remaining, result_bind, hgoes, Option.bind_some]
          dsimp only
          rw [if_pos rfl, result_bind, hread (hfield name s), append_remaining, List.map_cons,
            elementsChange?]
          cases field name v with
          | none => rfl
          | some f =>
              rw [Option.map_some, Option.map_some, Option.bind_some, Option.bind_some, hrest f,
                Option.map_map]
              rfl

/-- **A group** is decoded from an object with its fields, or from an array of their values. -/
theorem reads_group (title : String) (s : σ) :
    Reads (readGroup title known readField s)
      (fun v => (groupChange? known field v).map (· s)) := by
  unfold readGroup
  refine reads_of_head fun {v c tail rest} hopens hv _ => ?_
  split
  · -- an object
    rename_i hopen
    cases hopen
    obtain ⟨ms, rfl⟩ := Value.eq_object hopens
    obtain ⟨space, members, hspace, hmembers, rfl, htail⟩ := hv.object_remaining
    rw [result_bind, List.cons_append, ← List.nil_append ('\x7b' :: _), result_eat white_nil rfl,
      if_pos rfl, Option.bind_some, result_bind, result_get, Option.bind_some, htail,
      Option.map_map]
    exact result_readMembers hfield hmembers (Nat.lt_succ_of_le (length_le_remaining _ _ _)) [] s
      hspace rest
  · -- an array
    rename_i hopen
    cases hopen
    obtain ⟨vs, rfl⟩ := Value.eq_array hopens
    obtain ⟨space, elements, hspace, helements, rfl, htail⟩ := hv.array_remaining
    rw [result_bind, List.cons_append, ← List.nil_append ('[' :: _), result_eat white_nil rfl,
      if_pos rfl, Option.bind_some, htail, Option.map_map]
    exact result_readElements hfield helements known true s hspace rest
  · rename_i hobject harray
    rw [result_misfit]
    cases v with
    | object ms => exact absurd (congrArg some (eq_of_beq hopens)) hobject
    | array vs => exact absurd (congrArg some (eq_of_beq hopens)) harray
    | _ => rfl

end Groups

/-! ## §7. Whole texts -/

theorem reads_named (fields : Fields σ) (name : String) (s : σ) :
    Reads (readNamed fields name s) (fun v => (fieldChange? fields name v).map (· s)) := by
  unfold readNamed fieldChange?
  cases fields.lookup name with
  | none => exact ⟨fun _ _ _ => rfl⟩
  | some slot => exact reads_slot slot s

theorem reads_part (name : String) (s : Settings) :
    Reads (readPart name s) (fun v => (partChange? name v).map (· s)) := by
  unfold readPart partChange?
  split
  · have hgroup := (@reads_group _ (names filterFields) _ _ (reads_named filterFields) filterTitle
      {}).map fun filter => { s with filter }
    simpa [Function.comp_def] using hgroup
  · have hgroup := (@reads_group _ (names renderFields) _ _ (reads_named renderFields) renderTitle
      {}).map fun render => { s with render }
    simpa [Function.comp_def] using hgroup

/-- **A text is read as its value**: it gives the settings of the value that it stands for, and none
    where the value gives none. -/
theorem toOption_readSettings {text : String} {v : Value} (h : Element v text.toList) :
    (readSettings text).toOption = settings? v := by
  have hreads : Reads (readGroup settingsTitle groupNames readPart {})
      (fun v => (groupChange? groupNames partChange? v).map (· {})) := reads_group reads_part _ _
  obtain ⟨after, hafter, hread⟩ := @Reads.element _ _ _ hreads v text.toList [] h (by simp)
  rw [List.append_nil, List.append_nil, result] at hread
  unfold readSettings settings?
  cases hrun : (readGroup settingsTitle groupNames readPart {}).run text.toList with
  | error trouble =>
      rw [hrun] at hread
      cases hchange : groupChange? groupNames partChange? v with
      | none => rfl
      | some f => rw [hchange] at hread; cases hread
  | ok found =>
      rw [hrun] at hread
      cases hchange : groupChange? groupNames partChange? v with
      | none => rw [hchange] at hread; cases hread
      | some f =>
          rw [hchange] at hread
          cases hread
          show (if after.all isSpace = true then _ else _ : Except Trouble Settings).toOption = _
          rw [if_pos (List.all_eq_true.mpr hafter)]
          rfl

end TestScaffold.SettingsFile.Json
