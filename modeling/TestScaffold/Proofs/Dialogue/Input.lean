/-
  TestScaffold.Proofs.Dialogue.Input — the lines that a typed text has.

  An input is bytes, and its lines are cut after the bytes of line feeds.  No other
  character has such a byte, so the lines of a text's bytes are the lines of the text.

    * `newline_not_mem_utf8` — only a line feed has the byte of one;
    * `lineOfBytes_newline` — a line feed at the end does not make bytes a text, or no text;
    * `inputLines_line`, `inputLines_last` — a line that ends, and a last one that does not;
    * `inputLines_typed` — texts typed one below the other are the lines of the input;
    * `inputLines_text` — every text is its lines, one after the other.
-/
import TestScaffold.Dialogue
import TestScaffold.Proofs.Text.ByteString
import TestScaffold.Proofs.Text.Lists

namespace TestScaffold

/-! ## §1. The byte of a line feed -/

/-- **Only a line feed has the byte of one.** -/
theorem newline_not_mem_utf8 {s : String} (h : '\n' ∉ s.toList) : (10 : UInt8) ∉ utf8 s := by
  rw [utf8_eq]
  intro hmem
  obtain ⟨c, hc, hbyte⟩ := List.mem_flatMap.mp hmem
  exact h ((eq_of_ascii_mem (by decide) hbyte).1 ▸ hc)

theorem lineOfBytes_utf8 (s : String) : lineOfBytes (utf8 s) = some s := by
  have hvalid : s.toUTF8.IsValidUTF8 := s.isValidUTF8
  show String.fromUTF8? s.toUTF8 = some s
  rw [String.fromUTF8?, dif_pos hvalid]
  rfl

theorem lineOfBytes_eq_some {bytes : List UInt8} {s : String} :
    lineOfBytes bytes = some s ↔ utf8 s = bytes := by
  constructor
  · intro h
    rw [lineOfBytes, String.fromUTF8?] at h
    split at h
    · rw [← Option.some.inj h]
      rfl
    · cases h
  · rintro rfl
    exact lineOfBytes_utf8 s

/-- A text whose last byte is that of a line feed ends with a line feed. -/
theorem ends_of_utf8_newline {bytes : List UInt8} {t : String} (h : utf8 t = bytes ++ [10]) :
    ∃ s, t = s ++ "\n" ∧ utf8 s = bytes := by
  obtain ⟨s, rest, ht, hs, hrest⟩ := utf8_split (by decide) h
  have hnil : rest = "" := ByteString.ofText_injective (congrArg ByteString.ofList hrest)
  refine ⟨s, ?_, hs⟩
  rw [← String.toList_inj, ht, hnil, String.toList_append]
  rfl

/-- **A line feed at the end of bytes** does not make them a text, or no text. -/
theorem lineOfBytes_newline (bytes : List UInt8) :
    lineOfBytes (bytes ++ [10]) = (lineOfBytes bytes).map (· ++ "\n") := by
  have hfeed : utf8 "\n" = [10] := by decide
  cases hline : lineOfBytes (bytes ++ [10]) with
  | some t =>
      obtain ⟨s, rfl, hs⟩ := ends_of_utf8_newline (lineOfBytes_eq_some.mp hline)
      rw [lineOfBytes_eq_some.mpr hs]
      rfl
  | none =>
      cases hbytes : lineOfBytes bytes with
      | none => rfl
      | some s =>
          have hmore : utf8 (s ++ "\n") = bytes ++ [10] := by
            rw [utf8_append, hfeed, lineOfBytes_eq_some.mp hbytes]
          rw [lineOfBytes_eq_some.mpr hmore] at hline
          cases hline

/-! ## §2. Lines -/

theorem inputLinesFrom_line {pending bytes rest : List UInt8} (h : (10 : UInt8) ∉ bytes) :
    inputLinesFrom pending (bytes ++ 10 :: rest)
      = lineOfBytes (pending.reverse ++ bytes ++ [10]) :: inputLinesFrom [] rest := by
  -- on the bytes of the line; what was read of it is pending
  induction bytes generalizing pending with
  | nil => simp [inputLinesFrom]
  | cons b bytes ih =>
      have hb : ¬ b = 10 := fun heq => h (heq ▸ List.mem_cons_self)
      rw [List.cons_append, inputLinesFrom, if_neg hb, ih fun hm => h (List.mem_cons_of_mem b hm)]
      simp

theorem inputLinesFrom_last {pending bytes : List UInt8} (h : (10 : UInt8) ∉ bytes)
    (hne : pending.reverse ++ bytes ≠ []) :
    inputLinesFrom pending bytes = [lineOfBytes (pending.reverse ++ bytes)] := by
  induction bytes generalizing pending with
  | nil =>
      have hpending : pending.isEmpty = false := by simpa using hne
      rw [inputLinesFrom, hpending]
      simp
  | cons b bytes ih =>
      have hb : ¬ b = 10 := fun heq => h (heq ▸ List.mem_cons_self)
      rw [inputLinesFrom, if_neg hb, ih (fun hm => h (List.mem_cons_of_mem b hm)) (by simp)]
      simp

/-- A line that ends, and what stands below it. -/
theorem inputLines_line {line : String} (rest : String) (h : '\n' ∉ line.toList) :
    inputLines (line ++ "\n" ++ rest).toUTF8 = some (line ++ "\n") :: inputLines rest.toUTF8 := by
  have hfeed : utf8 "\n" = [10] := by decide
  show inputLinesFrom [] (utf8 (line ++ "\n" ++ rest)) = _
  rw [utf8_append, utf8_append, hfeed, List.append_assoc, List.singleton_append,
    inputLinesFrom_line (newline_not_mem_utf8 h), ← lineOfBytes_utf8, utf8_append, hfeed]
  rfl

/-- A last line that does not end is a line as well. -/
theorem inputLines_last {line : String} (h : '\n' ∉ line.toList) (hne : line ≠ "") :
    inputLines line.toUTF8 = [some line] := by
  -- a text without bytes would be the empty text
  have hbytes : ([] : List UInt8).reverse ++ utf8 line ≠ [] := by
    intro hnil
    have hline := lineOfBytes_utf8 line
    rw [show utf8 line = utf8 "" from hnil, lineOfBytes_utf8] at hline
    exact hne (Option.some.inj hline).symm
  show inputLinesFrom [] (utf8 line) = _
  rw [inputLinesFrom_last (newline_not_mem_utf8 h) hbytes, ← lineOfBytes_utf8]
  rfl

/-- **Texts typed one below the other are the lines of the input**; the last may end or not. -/
theorem inputLines_typed {texts : List String} {last ending : String}
    (htexts : ∀ t ∈ texts, '\n' ∉ t.toList) (hlast : '\n' ∉ last.toList) (hne : last ≠ "")
    (hending : ending = "" ∨ ending = "\n") :
    inputLines (String.intercalate "\n" (texts ++ [last]) ++ ending).toUTF8
      = (texts.map (· ++ "\n") ++ [last ++ ending]).map some := by
  induction texts with
  | nil =>
      rw [List.nil_append, String.intercalate_singleton, List.map_nil, List.nil_append]
      rcases hending with rfl | rfl
      · rw [String.append_empty]
        exact inputLines_last hlast hne
      · have hline := inputLines_line "" hlast
        rwa [String.append_empty] at hline
  | cons text texts ih =>
      have hmore : texts ++ [last] ≠ [] := by simp
      rw [List.cons_append, String.intercalate_cons_of_ne_nil hmore, String.append_assoc,
        inputLines_line _ (htexts text List.mem_cons_self),
        ih fun t ht => htexts t (List.mem_cons_of_mem text ht)]
      rfl

/-- **Every text is its lines**, one after the other. -/
theorem inputLines_text (text : String) :
    ∃ lines : List String, inputLines text.toUTF8 = lines.map some ∧ String.join lines = text := by
  -- on the number of characters, the first line being cut off
  induction hlength : text.length using Nat.strongRecOn generalizing text with
  | ind n ih =>
      by_cases hfeed : '\n' ∈ text.toList
      · obtain ⟨cs, ds, hsplit, hfirst⟩ := List.eq_append_cons_of_mem hfeed
        have htext : text = String.ofList cs ++ "\n" ++ String.ofList ds := by
          rw [← String.toList_inj, hsplit, String.toList_append, String.toList_append, List.append_assoc,
            String.toList_ofList, String.toList_ofList, String.toList_ofList, List.singleton_append]
        have hshort : (String.ofList ds).length < n := by
          rw [← hlength, htext, String.length_append, String.length_append]
          have hone : "\n".length = 1 := rfl
          omega
        obtain ⟨lines, hlines, hjoin⟩ := ih _ hshort (String.ofList ds) rfl
        refine ⟨(String.ofList cs ++ "\n") :: lines, ?_, ?_⟩
        · rw [htext, inputLines_line _ (by rwa [String.toList_ofList]), hlines, List.map_cons]
        · rw [String.join_cons, hjoin, htext]
      · by_cases hne : text = ""
        · exact ⟨[], by rw [hne]; decide, hne.symm⟩
        · exact ⟨[text], inputLines_last hfeed hne, by rw [String.join_cons, String.join_nil, String.append_empty]⟩

end TestScaffold
