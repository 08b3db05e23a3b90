import ClusterMigration.Proofs.Storage.Path

/-!
# Where paths lead by their text

A path read by its text alone, as if every name in it led into a directory: two dots take back
the name before them. Whether a path stays inside of another one shows in these forms. The main
statement is `inside_join_iff`, by which a path that is joined to a base stays inside of it
just if it does not lead out, or comes back in by the names that it has taken back.
-/

namespace ClusterMigration

namespace Path

/-- Some steps out of the root or of where the path is used, and names to go in by. -/
structure Normal where
  absolute : Bool
  ups : Nat := 0
  names : List String := []
  deriving DecidableEq, Repr

namespace Normal

def out (n : Normal) : Normal :=
  if n.names = [] then
    if n.absolute then n else { n with ups := n.ups + 1 }
  else { n with names := n.names.dropLast }

def enter (n : Normal) (name : String) : Normal :=
  if name = "." then n
  else if name = ".." then n.out
  else { n with names := n.names ++ [name] }

def follow (n : Normal) (names : List String) : Normal := names.foldl enter n

def ofNames (names : List String) : Normal := follow { absolute := false } names

/-- As many steps out as the other has, and then in by its names. -/
def detour (n other : Normal) : Normal where
  absolute := n.absolute
  ups := if n.absolute then n.ups else n.ups + (other.ups - n.names.length)
  names := n.names.take (n.names.length - other.ups) ++ other.names

def Inside (base n : Normal) : Prop :=
  base.absolute = n.absolute ∧ base.ups = n.ups ∧ base.names <+: n.names

instance (base n : Normal) : Decidable (base.Inside n) := inferInstanceAs (Decidable (_ ∧ _ ∧ _))

theorem follow_append (n : Normal) (names more : List String) :
    n.follow (names ++ more) = (n.follow names).follow more := List.foldl_append

theorem detour_out (n : Normal) {other : Normal} (h : other.absolute = false) :
    (n.detour other).out = n.detour other.out := by
  by_cases hnames : other.names = []
  · have hother : other.out = { other with ups := other.ups + 1 } := by simp [out, hnames, h]
    rw [hother]
    by_cases hlength : n.names.length ≤ other.ups
    · -- nothing is left to take back
      have htake : n.names.length - other.ups = 0 := by omega
      have htake' : n.names.length - (other.ups + 1) = 0 := by omega
      have hups : other.ups + 1 - n.names.length = other.ups - n.names.length + 1 := by omega
      simp only [out, detour, hnames, htake, htake', hups, List.take_zero, List.append_nil,
        if_true]
      split <;> simp [*, Nat.add_assoc]
    · have htake : (n.names.take (n.names.length - other.ups)).dropLast =
          n.names.take (n.names.length - (other.ups + 1)) := by
        rw [List.dropLast_eq_take, List.take_take, List.length_take]
        congr 1
        omega
      have hne : n.names.take (n.names.length - other.ups) ≠ [] := by
        apply List.ne_nil_of_length_pos
        rw [List.length_take]
        omega
      have hups : other.ups - n.names.length = other.ups + 1 - n.names.length := by omega
      simp [out, detour, hnames, hne, htake, hups]
  · simp [out, detour, hnames, List.dropLast_append_of_ne_nil]

theorem detour_enter (n : Normal) {other : Normal} (h : other.absolute = false) (name : String) :
    (n.detour other).enter name = n.detour (other.enter name) := by
  unfold enter
  split
  · rfl
  · split
    · exact detour_out n h
    · simp [detour]

theorem absolute_out (n : Normal) : n.out.absolute = n.absolute := by
  unfold out
  split
  · split <;> rfl
  · rfl

theorem absolute_enter (n : Normal) (name : String) : (n.enter name).absolute = n.absolute := by
  unfold enter
  split
  · rfl
  · split
    · exact absolute_out n
    · rfl

theorem detour_follow (n : Normal) {other : Normal} (h : other.absolute = false)
    (names : List String) : (n.detour other).follow names = n.detour (other.follow names) := by
  induction names generalizing other with
  | nil => rfl
  | cons name rest ih =>
      have hstep : (n.detour other).enter name = n.detour (other.enter name) :=
        detour_enter n h name
      have hother : (other.enter name).absolute = false := (absolute_enter other name).trans h
      calc (n.detour other).follow (name :: rest)
          = (n.detour (other.enter name)).follow rest := by rw [← hstep]; rfl
        _ = n.detour ((other.enter name).follow rest) := ih hother

theorem follow_eq_detour (n : Normal) (names : List String) :
    n.follow names = n.detour (ofNames names) := by
  have hstay : n.detour { absolute := false } = n := by simp [detour]
  calc n.follow names = (n.detour { absolute := false }).follow names := by rw [hstay]
    _ = n.detour (ofNames names) := detour_follow n rfl names

/-- The names lead out of the base by no more steps than there are, and back in by the names
that they have taken back, if they lead out at all. -/
def ComesBack (base : Normal) (names : List String) : Prop :=
  (base.absolute = true ∨ (ofNames names).ups ≤ base.names.length) ∧
    base.names.drop (base.names.length - (ofNames names).ups) <+: (ofNames names).names

instance (base : Normal) (names : List String) : Decidable (base.ComesBack names) :=
  inferInstanceAs (Decidable (_ ∧ _))

theorem inside_follow_iff (base : Normal) (names : List String) :
    base.Inside (base.follow names) ↔ base.ComesBack names := by
  have hsplit := List.take_append_drop (base.names.length - (ofNames names).ups) base.names
  have hprefix : base.names <+: (base.detour (ofNames names)).names ↔
      base.names.drop (base.names.length - (ofNames names).ups) <+: (ofNames names).names := by
    have hinj : base.names.take (base.names.length - (ofNames names).ups) ++
        base.names.drop (base.names.length - (ofNames names).ups) <+:
          (base.detour (ofNames names)).names ↔ _ := List.prefix_append_right_inj _
    rw [hsplit] at hinj
    exact hinj
  have hups : base.ups = (base.detour (ofNames names)).ups ↔
      base.absolute = true ∨ (ofNames names).ups ≤ base.names.length := by
    simp only [detour]
    cases base.absolute
    · simp only [Bool.false_eq_true, if_false, false_or]
      omega
    · simp
  rw [follow_eq_detour, Inside, hprefix, hups, ComesBack]
  simp [detour]

end Normal

/-! ## The forms of paths -/

def normal (path : String) : Normal :=
  Normal.follow { absolute := isAbsolute path } (Disk.names path)

theorem normal_join {base path : String} (h : isAbsolute path = false) :
    normal (join base path) = (normal base).follow (Disk.names path) := by
  rw [normal, names_join h, isAbsolute_join h, Normal.follow_append]
  rfl

/-- A path stays inside of the base that it is joined to just if it comes back. -/
theorem inside_join_iff {base path : String} (h : isAbsolute path = false) :
    (normal base).Inside (normal (join base path)) ↔
      (normal base).ComesBack (Disk.names path) := by
  rw [normal_join h, Normal.inside_follow_iff]

end Path

end ClusterMigration
