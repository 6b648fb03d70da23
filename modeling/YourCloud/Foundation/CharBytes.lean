import YourCloud.Foundation.Chars

/-!
# The bytes and the lines of a text

A program that reads a file as text asks first whether its bytes spell one, and
goes back to the bytes of a part of it afterwards.  A text that was written line
by line is cut into the same lines again.

## Main results

* `fromUtf8_eq_some` — the text that is read is the one the bytes spell.
* `lines_cons` — a line that was written is the first to be read.
-/

namespace YourCloud.Foundation

/-- `str::as_bytes` -/
def Chars.bytes (s : Chars) : Bytes := s.flatMap String.utf8EncodeChar

/-- `str::from_utf8` -/
def fromUtf8 (bytes : Bytes) : Option Chars := (String.fromUTF8? ⟨bytes.toArray⟩).map String.toList

namespace Chars

theorem toByteArray_ofList (s : Chars) : (String.ofList s).toByteArray = ⟨(bytes s).toArray⟩ := by
  rw [String.toByteArray_ofList, List.utf8Encode, bytes]
  apply ByteArray.ext
  exact List.data_toByteArray

end Chars

open Chars

/-- The text that is read is the one the bytes spell. -/
theorem fromUtf8_eq_some {bytes : Bytes} {s : Chars} :
    fromUtf8 bytes = some s ↔ Chars.bytes s = bytes := by
  constructor
  · intro h
    obtain ⟨text, htext, rfl⟩ := Option.map_eq_some_iff.1 h
    rw [String.fromUTF8?] at htext
    split at htext
    · rename_i hvalid
      obtain rfl := Option.some.inj htext
      have hbytes := Chars.toByteArray_ofList (String.fromUTF8 ⟨bytes.toArray⟩ hvalid).toList
      rw [String.ofList_toList] at hbytes
      exact (congrArg (fun b => b.data.toList) hbytes).symm
    · cases htext
  · rintro rfl
    have hvalid : (ByteArray.mk (Chars.bytes s).toArray).IsValidUTF8 := by
      rw [← Chars.toByteArray_ofList]
      exact (String.ofList s).isValidUTF8
    rw [fromUtf8, String.fromUTF8?, dif_pos hvalid]
    have htext : String.fromUTF8 _ hvalid = String.ofList s :=
      String.toByteArray_inj.1 (Chars.toByteArray_ofList s).symm
    rw [htext, Option.map_some, String.toList_ofList]

/-! ## Lines -/

theorem trimEnd_eq_self {s : Chars} (h : ∀ c ∈ s, isWhitespace c = false) : trimEnd s = s := by
  rw [trimEnd, List.rdropWhile_eq_self_iff]
  intro hne
  simp [h _ (List.getLast_mem hne)]

theorem stripReturn_eq_self {s : Chars} (h : '\r' ∉ s) : stripReturn s = s := by
  unfold stripReturn stripSuffix
  split
  · rename_i hsuffix
    obtain ⟨t, rfl⟩ := List.isSuffixOf_iff_suffix.1 hsuffix
    simp at h
  · rfl

/-- The lines of a text that ends each of them. -/
theorem lines_cons {line rest : Chars} (hend : '\n' ∉ line) (hreturn : '\r' ∉ line) :
    lines (line ++ '\n' :: rest) = line :: lines rest := by
  have hsplit : (line ++ '\n' :: rest).splitOn '\n' = line :: rest.splitOn '\n' :=
    List.splitOnP_append_cons_of_forall_mem
      (fun c hc => beq_false_of_ne (ne_of_mem_of_not_mem hc hend)) '\n' (by simp) rest
  have hne : rest.splitOn '\n' ≠ [] := List.splitOn_ne_nil _ _
  unfold lines
  rw [hsplit]
  generalize rest.splitOn '\n' = pieces at hne
  dsimp only
  rw [List.dropLast_cons_of_ne_nil hne, List.getLast?_cons_of_ne_nil hne, List.map_cons,
    stripReturn_eq_self hreturn, List.cons_append]

end YourCloud.Foundation
