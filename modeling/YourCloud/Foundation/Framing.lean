import Mathlib.Data.List.Infix
import YourCloud.Foundation.Bytes

/-!
# Messages of framed items

A message is a domain followed by items, each a text behind its length or a
number of fixed width.  The items of a message can be read back from it, so a
message says which items it was made of, provided that the lengths fit their
prefixes and that the reader knows the kinds of the items.

## Main results

* `frame_injective` — messages of items of the same kinds are equal only where
  the items are.
* `domain_prefix` — messages that are equal have domains one of which begins
  the other.
-/

namespace YourCloud.Foundation

/-- One item of a message. -/
inductive Item where
  | field (value : Bytes)
  | number (n : UInt64)
  deriving DecidableEq, Repr

namespace Item

/-- An item as it stands in a message; a length past four bytes is cut. -/
def write : Item → Bytes
  | field value => bigEndian 4 value.length ++ value
  | number n => bigEndian 8 n.toNat

def isField : Item → Bool
  | field _ => true
  | number _ => false

/-- The length of a field fits its prefix. -/
def fits : Item → Bool
  | field value => value.length < 2 ^ 32
  | number _ => true

/-- An item can be read back from whatever begins with it. -/
theorem write_injective {x y : Item} (hkind : x.isField = y.isField) (hx : x.fits = true)
    (hy : y.fits = true) {s t : Bytes} (h : x.write ++ s = y.write ++ t) : x = y ∧ s = t := by
  cases x with
  | field v =>
      cases y with
      | number n => cases hkind
      | field w =>
          have hv : v.length < 256 ^ 4 := of_decide_eq_true hx
          have hw : w.length < 256 ^ 4 := of_decide_eq_true hy
          rw [write, write, List.append_assoc, List.append_assoc] at h
          obtain ⟨hlength, hrest⟩ := List.append_inj h (by simp)
          obtain ⟨hvalue, htail⟩ := List.append_inj hrest (bigEndian_injective hv hw hlength)
          exact ⟨by rw [hvalue], htail⟩
  | number m =>
      cases y with
      | field w => cases hkind
      | number n =>
          obtain ⟨hvalue, htail⟩ := List.append_inj h (by simp [write])
          have hnat := bigEndian_injective (by simpa using m.toNat_lt) (by simpa using n.toNat_lt)
            hvalue
          exact ⟨by rw [UInt64.toNat_inj.1 hnat], htail⟩

end Item

/-- The items of a message, one behind the other. -/
def frame (items : List Item) : Bytes := items.flatMap Item.write

theorem frame_injective {xs ys : List Item} (hkinds : xs.map Item.isField = ys.map Item.isField)
    (hxs : xs.all Item.fits = true) (hys : ys.all Item.fits = true) (h : frame xs = frame ys) :
    xs = ys := by
  induction xs generalizing ys with
  | nil =>
      cases ys with
      | nil => rfl
      | cons y ys => cases hkinds
  | cons x xs ih =>
      cases ys with
      | nil => cases hkinds
      | cons y ys =>
          obtain ⟨hkind, hkinds⟩ := List.cons.inj hkinds
          simp only [List.all_cons, Bool.and_eq_true] at hxs hys
          rw [frame, frame, List.flatMap_cons, List.flatMap_cons] at h
          obtain ⟨hitem, hrest⟩ := Item.write_injective hkind hxs.1 hys.1 h
          rw [hitem, ih hkinds hxs.2 hys.2 hrest]

/-- Messages of two domains are told apart before their first item. -/
theorem domain_prefix {domain domain' s t : Bytes} (h : domain ++ s = domain' ++ t) :
    domain <+: domain' ∨ domain' <+: domain :=
  List.prefix_or_prefix_of_prefix (List.prefix_append domain s)
    (h ▸ List.prefix_append domain' t)

end YourCloud.Foundation
