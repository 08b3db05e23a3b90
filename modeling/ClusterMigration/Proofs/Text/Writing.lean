/-!
# Writing that can be read

What is written can be read if it tells what it was written for and where it ends, whatever
stands behind it. Writing of one piece after the other can be read if the pieces can, and so can
a list whose end does not look like another item.
-/

namespace ClusterMigration

namespace Writing

variable {α β γ δ σ : Type}

theorem eq_of_delimiter {d : σ} {s t x y : List σ} (hs : d ∉ s) (ht : d ∉ t)
    (heq : s ++ d :: x = t ++ d :: y) : s = t ∧ x = y := by
  induction s generalizing t with
  | nil =>
      cases t with
      | nil => exact ⟨rfl, (List.cons.inj heq).2⟩
      | cons b t =>
          obtain ⟨rfl, -⟩ := List.cons.inj heq
          exact absurd (List.mem_cons_self ..) ht
  | cons a s ih =>
      cases t with
      | nil =>
          obtain ⟨rfl, -⟩ := List.cons.inj heq
          exact absurd (List.mem_cons_self ..) hs
      | cons b t =>
          obtain ⟨rfl, hrest⟩ := List.cons.inj heq
          obtain ⟨rfl, hbehind⟩ :=
            ih (mt (List.mem_cons_of_mem _) hs) (mt (List.mem_cons_of_mem _) ht) hrest
          exact ⟨rfl, hbehind⟩

theorem append_ne_of_take {s t : List σ} (n : Nat) (hs : n ≤ s.length) (ht : n ≤ t.length)
    (h : s.take n ≠ t.take n) (x y : List σ) : s ++ x ≠ t ++ y := by
  intro heq
  have htake := congrArg (List.take n) heq
  rw [List.take_append_of_le_length hs, List.take_append_of_le_length ht] at htake
  exact h htake

/-- Whatever stands behind it, what is written tells a part of what it was written for, and
where it ends. -/
def Tells (part : α → β) (write : α → List σ) : Prop :=
  ∀ ⦃a b x y⦄, write a ++ x = write b ++ y → part a = part b ∧ x = y

variable {part : α → β} {write : α → List σ}

theorem tells_fixed (fixed : List σ) : Tells (fun _ : α => ()) fun _ => fixed :=
  fun _ _ _ _ heq => ⟨rfl, List.append_cancel_left heq⟩

theorem tells_of_length (hlength : ∀ a b, (write a).length = (write b).length)
    (h : ∀ a b, write a = write b → part a = part b) : Tells part write := by
  intro a b x y heq
  obtain ⟨hwrite, hrest⟩ := List.append_inj heq (hlength a b)
  exact ⟨h a b hwrite, hrest⟩

theorem Tells.append {other : α → γ} {more : α → List σ} (h : Tells part write)
    (hmore : Tells other more) :
    Tells (fun a => (part a, other a)) fun a => write a ++ more a := by
  intro a b x y heq
  rw [List.append_assoc, List.append_assoc] at heq
  obtain ⟨hpart, heq⟩ := h heq
  obtain ⟨hother, hrest⟩ := hmore heq
  exact ⟨Prod.ext hpart hother, hrest⟩

theorem Tells.comp (h : Tells part write) (f : δ → α) :
    Tells (fun d => part (f d)) fun d => write (f d) := fun _ _ _ _ heq => h heq

/-- Items tell where they end if none of them looks like what stands behind the last one. -/
theorem Tells.list (h : Tells id write) {stop : List σ}
    (hstop : ∀ a x y, write a ++ x ≠ stop ++ y) :
    Tells id fun items : List α => items.flatMap write ++ stop := by
  intro as bs x y heq
  induction as generalizing bs with
  | nil =>
      cases bs with
      | nil => exact ⟨rfl, List.append_cancel_left heq⟩
      | cons b bs =>
          simp only [List.flatMap_cons, List.append_assoc] at heq
          exact absurd heq.symm (hstop b _ _)
  | cons a as ih =>
      cases bs with
      | nil =>
          simp only [List.flatMap_cons, List.append_assoc] at heq
          exact absurd heq (hstop a _ _)
      | cons b bs =>
          simp only [List.flatMap_cons, List.append_assoc] at heq
          obtain ⟨rfl, hrest⟩ := h heq
          simp only [← List.append_assoc] at hrest
          obtain ⟨rfl, hbehind⟩ := ih hrest
          exact ⟨rfl, hbehind⟩

theorem Tells.eq (h : Tells part write) {a b : α} (heq : write a = write b) : part a = part b :=
  (h (congrArg (· ++ []) heq)).1

end Writing

end ClusterMigration
