import YourCloud.Foundation.Bytes

/-!
# Self-delimiting codes

A way of writing values is self-delimiting where whoever reads a written value
can tell it apart from whatever follows it.  Words of fixed width are, and so
are fields behind their length and lists behind their count; one behind the other
they stay self-delimiting, even where the first value decides how the second one
is written.  A message written so says which values it was made of.

A code need not be self-delimiting on every value: a length past its prefix is
cut.  So a code is of the values that meet a condition.

## Main results

* `SelfDelimiting.injective` — written alike, values are the same.
* `SelfDelimiting.follow` — a value that decides how the next one is written.
* `SelfDelimiting.list` — a list behind its count.
* `SelfDelimiting.of_view` — a value written through what is read off it.
-/

namespace YourCloud.Foundation

variable {α β : Type*}

/-- What is written of the values with `p` can be told apart from whatever follows it. -/
def SelfDelimiting (p : α → Prop) (write : α → Bytes) : Prop :=
  ∀ ⦃x y : α⦄ ⦃s t : Bytes⦄, p x → p y → write x ++ s = write y ++ t → x = y ∧ s = t

/-- A field behind its length; a length past four bytes is cut. -/
def writeField (value : Bytes) : Bytes := bigEndian 4 value.length ++ value

/-- A list of values behind its count. -/
def writeList (write : α → Bytes) (values : List α) : Bytes :=
  bigEndian 4 values.length ++ values.flatMap write

namespace SelfDelimiting

variable {p : α → Prop} {q : β → Prop} {f : α → Bytes} {g : β → Bytes}

theorem injective (hf : SelfDelimiting p f) {x y : α} (hx : p x) (hy : p y) (h : f x = f y) :
    x = y := by
  apply (hf (s := []) (t := []) hx hy _).1
  rw [h]

theorem word (width : Nat) : SelfDelimiting (· < 256 ^ width) (bigEndian width) := by
  intro m n s t hm hn h
  obtain ⟨hword, hrest⟩ := List.append_inj h (by simp)
  exact ⟨bigEndian_injective hm hn hword, hrest⟩

theorem field : SelfDelimiting (fun value : Bytes => value.length < 256 ^ 4) writeField := by
  intro v w s t hv hw h
  rw [writeField, writeField, List.append_assoc, List.append_assoc] at h
  obtain ⟨hlength, hrest⟩ := word 4 hv hw h
  exact List.append_inj hrest hlength

/-- A value, and then one whose writing it decides. -/
theorem follow {q : α → β → Prop} {g : α → β → Bytes} (hf : SelfDelimiting p f)
    (hg : ∀ a, p a → SelfDelimiting (q a) (g a)) :
    SelfDelimiting (fun x : α × β => p x.1 ∧ q x.1 x.2) fun x => f x.1 ++ g x.1 x.2 := by
  rintro ⟨a, b⟩ ⟨c, d⟩ s t ⟨ha, hb⟩ ⟨hc, hd⟩ h
  rw [List.append_assoc, List.append_assoc] at h
  obtain ⟨hfirst, hrest⟩ := hf ha hc h
  obtain rfl : a = c := hfirst
  obtain ⟨hsecond, hrest⟩ := hg a ha hb hd hrest
  exact ⟨by rw [show b = d from hsecond], hrest⟩

/-- Two values one behind the other. -/
theorem pair (hf : SelfDelimiting p f) (hg : SelfDelimiting q g) :
    SelfDelimiting (fun x : α × β => p x.1 ∧ q x.2) fun x => f x.1 ++ g x.2 :=
  follow hf fun _ _ => hg

/-- Lists of one length, value by value. -/
private theorem values (hf : SelfDelimiting p f) {xs ys : List α} {s t : Bytes}
    (hxs : ∀ x ∈ xs, p x) (hys : ∀ y ∈ ys, p y) (hlength : xs.length = ys.length)
    (h : xs.flatMap f ++ s = ys.flatMap f ++ t) : xs = ys ∧ s = t := by
  induction xs generalizing ys with
  | nil =>
      cases ys with
      | nil => exact ⟨rfl, h⟩
      | cons y ys => cases hlength
  | cons x xs ih =>
      cases ys with
      | nil => cases hlength
      | cons y ys =>
          rw [List.flatMap_cons, List.flatMap_cons, List.append_assoc, List.append_assoc] at h
          obtain ⟨hvalue, hrest⟩ := hf (hxs x List.mem_cons_self) (hys y List.mem_cons_self) h
          obtain ⟨hvalues, hrest⟩ := ih (fun z hz => hxs z (List.mem_cons_of_mem _ hz))
            (fun z hz => hys z (List.mem_cons_of_mem _ hz)) (Nat.succ.inj hlength) hrest
          exact ⟨by rw [hvalue, hvalues], hrest⟩

theorem list (hf : SelfDelimiting p f) :
    SelfDelimiting (fun values : List α => values.length < 256 ^ 4 ∧ ∀ x ∈ values, p x)
      (writeList f) := by
  rintro xs ys s t ⟨hcount, hxs⟩ ⟨hcount', hys⟩ h
  rw [writeList, writeList, List.append_assoc, List.append_assoc] at h
  obtain ⟨hlength, hrest⟩ := word 4 hcount hcount' h
  exact values hf hxs hys hlength hrest

/-- A value is written through what is read off it, which determines it. -/
theorem of_view {write : β → Bytes} (hf : SelfDelimiting p f) (view : β → α)
    (hview : ∀ b, q b → p (view b)) (hwrite : ∀ b, write b = f (view b))
    (hdetermines : ∀ b c, q b → q c → view b = view c → b = c) : SelfDelimiting q write := by
  intro b c s t hb hc h
  rw [hwrite, hwrite] at h
  obtain ⟨hsame, hrest⟩ := hf (hview b hb) (hview c hc) h
  exact ⟨hdetermines b c hb hc hsame, hrest⟩

end SelfDelimiting

end YourCloud.Foundation
