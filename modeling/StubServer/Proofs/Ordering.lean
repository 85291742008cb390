import StubServer.Template.Function.Array
import StubServer.Text.Utf8

/-!
# Sorting an array

Items are compared by their texts alone, so that items which differ may tie. What is answered is
the items in ascending order of their texts, where items of one text stay in their order, or the
reverse of this (`sort_stably`).
-/

namespace StubServer

namespace Template

namespace ArrayFunction

/-- The same items in ascending order of the bytes of their texts; items of one text stay in their
order. -/
structure StablySorted (items sorted : List Value) : Prop where
  perm : sorted.Perm items
  ordered : sorted.Pairwise fun v w => Text.bytes v.text.toList ≤ Text.bytes w.text.toList
  stable : ∀ text, (sorted.filter fun v => v.text = text) = items.filter fun v => v.text = text

/-- What is answered for a sorted array: its order is a word after the array, in any case. -/
def answered (sorted : List Value) (more : Arguments) : Answer Value :=
  let word := Text.asciiLower (more.stringOr 0 "asc")
  if word = "asc" then .ok (.array sorted)
  else if word = "desc" then .ok (.array sorted.reverse)
  else .error (.unknownOrder word)

theorem text_le_trans (u v w : Value) (h : decide (u.text ≤ v.text) = true)
    (h' : decide (v.text ≤ w.text) = true) : decide (u.text ≤ w.text) = true :=
  decide_eq_true (String.le_trans (of_decide_eq_true h) (of_decide_eq_true h'))

theorem text_le_total (v w : Value) :
    (decide (v.text ≤ w.text) || decide (w.text ≤ v.text)) = true := by
  rw [Bool.or_eq_true, decide_eq_true_iff, decide_eq_true_iff]
  exact String.le_total v.text w.text

theorem pairwise_ascending (items : List Value) :
    (ascending items).Pairwise fun v w => decide (v.text ≤ w.text) = true :=
  List.pairwise_mergeSort text_le_trans text_le_total items

theorem ascending_ascending (items : List Value) :
    ascending (ascending items) = ascending items :=
  List.mergeSort_of_pairwise (pairwise_ascending items)

/-- The items of one text are in order as they stand, so a stable sort keeps them in it. -/
theorem filter_ascending (items : List Value) (text : String) :
    ((ascending items).filter fun v => v.text = text) = items.filter fun v => v.text = text := by
  have hperm := (List.mergeSort_perm items fun v w => decide (v.text ≤ w.text)).filter
    fun v => v.text = text
  have htied : (items.filter fun v => v.text = text).Pairwise fun v w =>
      decide (v.text ≤ w.text) = true := by
    refine List.pairwise_of_forall_mem_list ?_
    intro v hv w hw
    have hv : v.text = text := of_decide_eq_true (List.mem_filter.1 hv).2
    have hw : w.text = text := of_decide_eq_true (List.mem_filter.1 hw).2
    exact decide_eq_true (hv ▸ hw ▸ String.le_refl text)
  have hkept := (List.sublist_mergeSort text_le_trans text_le_total htied
    List.filter_sublist).filter fun v => v.text = text
  rw [List.filter_filter] at hkept
  simp only [Bool.and_self] at hkept
  exact (hkept.eq_of_length hperm.length_eq.symm).symm

theorem stablySorted_ascending (items : List Value) : StablySorted items (ascending items) where
  perm := List.mergeSort_perm items _
  ordered := (pairwise_ascending items).imp fun h => Text.bytes_le_bytes_iff.2 (of_decide_eq_true h)
  stable := filter_ascending items

theorem call_sort (items : List Value) (more : Arguments) :
    call .sort (.array items :: more) = answered (ascending items) more := by
  have hword : Arguments.stringOr (.array items :: more) 1 "asc" = more.stringOr 0 "asc" := rfl
  have hitems : Arguments.array (.array items :: more) 0 = .ok items := rfl
  simp only [call, hitems, hword, Order.read, answered, bind, Except.bind]
  by_cases hasc : Text.asciiLower (more.stringOr 0 "asc") = "asc"
  · rw [if_pos hasc, if_pos hasc]
    rfl
  by_cases hdesc : Text.asciiLower (more.stringOr 0 "asc") = "desc"
  · rw [if_neg hasc, if_neg hasc, if_pos hdesc, if_pos hdesc]
    rfl
  · rw [if_neg hasc, if_neg hasc, if_neg hdesc, if_neg hdesc]

/-- An array is sorted stably by the bytes of its texts: in ascending order as it is, in descending
order reversed, and any other order is a fault. Sorting what is sorted changes nothing. -/
theorem sort_stably (items : List Value) :
    ∃ sorted, StablySorted items sorted ∧ ∀ more,
      call .sort (.array items :: more) = answered sorted more ∧
      call .sort (.array sorted :: more) = answered sorted more := by
  refine ⟨ascending items, stablySorted_ascending items, fun more => ⟨call_sort items more, ?_⟩⟩
  rw [call_sort, ascending_ascending]

end ArrayFunction

end Template

end StubServer
