import StubServer.Proofs.Iterations

/-!
# Separators of repetitions

A separator is put right behind the content of the text so far, so blanks that the iterations end
with, and the separators before it if they are blank, may go; nothing else does
(`evaluate_repeat_separated`).
-/

namespace StubServer

namespace Template

/-- The text grows out of these texts of iterations: before each text but the first the blanks at
the end go, the separator comes in their place, and then a line break if they had one. -/
inductive Grows (separator : List Char) : List (List Char) → List Char → Prop
  | none : Grows separator [] []
  | first (text : List Char) : Grows separator [text] text
  | next {texts : List (List Char)} {content blanks : List Char} (text : List Char)
      (hne : texts ≠ []) (h : Grows separator texts (content ++ blanks))
      (hblanks : ∀ c ∈ blanks, Text.isBlank c = true)
      (hcontent : ∀ c ∈ content.getLast?, Text.isBlank c = false) :
      Grows separator (texts ++ [text])
        (content ++ separator ++ (if '\n' ∈ blanks ∨ '\r' ∈ blanks then ['\n'] else []) ++ text)

namespace Grows

variable {separator out : List Char} {texts : List (List Char)}

/-- The text of the last iteration stays as it is. -/
theorem suffix (h : Grows separator texts out) : ∀ text ∈ texts.getLast?, text <:+ out := by
  cases h with
  | none => simp
  | first text => simp
  | next text _ _ _ _ =>
    rintro last hlast
    obtain rfl : text = last := by simpa using hlast
    exact List.suffix_append _ _

/-- Without blanks nothing is lost and nothing comes twice. -/
theorem filter_eq (h : Grows separator texts out) :
    out.filter (fun c => !Text.isBlank c) =
      (separator.intercalate texts).filter (fun c => !Text.isBlank c) := by
  induction h with
  | none => rfl
  | first text => simp
  | @next texts content blanks text hne _ hblanks _ ih =>
    have hnone : blanks.filter (fun c => !Text.isBlank c) = [] := by
      simpa [List.filter_eq_nil_iff] using hblanks
    have hbreak : (if '\n' ∈ blanks ∨ '\r' ∈ blanks then ['\n'] else []).filter
        (fun c => !Text.isBlank c) = [] := by
      split <;> rfl
    rw [List.filter_append, hnone, List.append_nil] at ih
    rw [Text.intercalate_append hne (List.cons_ne_nil _ _), List.intercalate_singleton]
    simp only [List.filter_append, ih, hbreak, List.append_nil]

/-- What one more iteration does to the text. -/
theorem joinBehind {separator soFar : String} (text : String) (hne : texts ≠ [])
    (h : Grows separator.toList texts soFar.toList) :
    Grows separator.toList (texts ++ [text.toList])
      (Template.joinBehind (some separator) soFar text).toList := by
  have hblanks : ∀ c ∈ Text.takeEndWhile Text.isBlank soFar.toList, Text.isBlank c = true :=
    fun c hc => List.all_eq_true.1 List.all_takeWhile c (List.mem_reverse.1 hc)
  have hcontent : ∀ c ∈ (Text.dropEndWhile Text.isBlank soFar.toList).getLast?,
      Text.isBlank c = false := by
    intro c hc
    rw [Text.dropEndWhile, List.getLast?_reverse] at hc
    exact (Text.takeWhile_dropWhile_iff.1 ⟨rfl, rfl⟩).2.2 c hc
  rw [← Text.dropEndWhile_append_takeEndWhile Text.isBlank soFar.toList] at h
  have hnext := Grows.next text.toList hne h hblanks hcontent
  have hbreak : ((Text.takeEndWhile Text.isBlank soFar.toList).any
      fun c => c == '\n' || c == '\r') = true ↔
      '\n' ∈ Text.takeEndWhile Text.isBlank soFar.toList ∨
        '\r' ∈ Text.takeEndWhile Text.isBlank soFar.toList := by
    simp [List.any_eq_true, and_or_left, exists_or]
  simp only [Template.joinBehind, separated, String.toList_append, String.toList_ofList, hbreak]
  exact hnext

theorem foldl_joinBehind (separator : String) :
    ∀ (more : List String) (soFar : String) (texts : List (List Char)), texts ≠ [] →
      Grows separator.toList texts soFar.toList →
      Grows separator.toList (texts ++ more.map String.toList)
        (more.foldl (Template.joinBehind (some separator)) soFar).toList
  | [], soFar, texts, _, h => by simpa using h
  | text :: more, soFar, texts, hne, h => by
    have hmore := foldl_joinBehind separator more _ (texts ++ [text.toList]) (by simp)
      (h.joinBehind text hne)
    simpa using hmore

theorem combined (separator : String) (texts : List String) :
    Grows separator.toList (texts.map String.toList)
      (Template.combined (some separator) texts).toList := by
  cases texts with
  | nil => exact .none
  | cons text texts =>
    exact foldl_joinBehind separator texts text [text.toList] (List.cons_ne_nil _ _) (.first _)

end Grows

/-- A `repeat` block with a separator, all of whose iterations have a text, has the text that grows
out of these. It ends with the last of them; up to blanks it is all of them with the separator
between neighbours; and each separator stands right behind content, with a line break behind it
exactly if one of the blanks that had to go there was a line break. -/
theorem evaluate_repeat_separated {setting : Setting} {params body : List Node}
    {s t : RenderState} {r : Repeat} {separator : String} {texts : List String}
    (hrepeat : repeatOf setting params s = .ok r t) (hseparator : r.separator = some separator)
    (htexts : (Iterations.ofRepeat setting body r t).texts = .ok texts) :
    texts.length = r.count ∧
      ∃ out u, evaluate setting (.block "repeat" params body) s = .ok (.string out) u ∧
        (∀ last ∈ texts.getLast?, last.toList <:+ out.toList) ∧
        out.toList.filter (fun c => !Text.isBlank c) =
          (separator.toList.intercalate (texts.map String.toList)).filter
            (fun c => !Text.isBlank c) ∧
        Grows separator.toList (texts.map String.toList) out.toList := by
  have hgrows := Grows.combined separator texts
  refine ⟨?_, combined (some separator) texts, ?_⟩
  · have hlength := Iterations.length_of_run htexts
    simpa [Iterations.indexScopes] using hlength
  rw [evaluate_repeat, hrepeat]
  dsimp only
  rw [Iterations.result, htexts, hseparator]
  refine ⟨_, rfl, fun last hlast => ?_, hgrows.filter_eq, hgrows⟩
  refine hgrows.suffix last.toList ?_
  rw [List.getLast?_map, Option.mem_def.1 hlast]
  rfl

/-- Iterations that end with a line break, and a separator that is no more than blanks and one
character. -/
theorem lines_evaluate_repeat :
    let setting : Setting := ⟨⟨0, 0, 0⟩, none⟩
    let params : List Node := [.literal "3", .literal " ;\n "]
    let body : List Node := [.variable "index", .text " \r\n "]
    let s : RenderState := { draws := ⟨fun _ => 0, 0⟩ }
    let texts := ["0 \r\n ", "1 \r\n ", "2 \r\n "]
    repeatOf setting params s = .ok ⟨3, some " ;\n "⟩ s ∧
      (Iterations.ofRepeat setting body ⟨3, some " ;\n "⟩ s).texts = .ok texts ∧
      combined (some " ;\n ") texts = "0 ;\n \n1 ;\n \n2 \r\n " ∧
      texts.length = 3 ∧
      ∃ out u, evaluate setting (.block "repeat" params body) s = .ok (.string out) u ∧
        (∀ last ∈ texts.getLast?, last.toList <:+ out.toList) ∧
        out.toList.filter (fun c => !Text.isBlank c) =
          (" ;\n ".toList.intercalate (texts.map String.toList)).filter
            (fun c => !Text.isBlank c) ∧
        Grows " ;\n ".toList (texts.map String.toList) out.toList := by
  intro setting params body s texts
  have hrepeat : repeatOf setting params s = .ok ⟨3, some " ;\n "⟩ s := rfl
  have htexts : (Iterations.ofRepeat setting body ⟨3, some " ;\n "⟩ s).texts = .ok texts := rfl
  exact ⟨hrepeat, htexts, by decide +kernel, evaluate_repeat_separated hrepeat rfl htexts⟩

end Template

end StubServer
