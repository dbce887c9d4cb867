import Commentary.Proofs.Components

/-! Paths followed to where they lead. A module is named by the first name below the source
directory, as it is written. Double dots behind that name may lead out of the module again and even
out of the source directory, which is not looked at. Here a relative path is brought down to steps
up and names down from there, which says exactly when it stays in the module it is given. -/
namespace Commentary

namespace Path

/-- Where a component leads from a directory. There is nothing above the root. -/
def walk (dir : List String) : Component → List String
  | .root => []
  | .here => dir
  | .up => dir.dropLast
  | .normal name => dir ++ [name]

/-- The names on the way from the root to where a path leads. -/
def resolved (path : String) : List String :=
  (components path).foldl walk []

/-- A way from one directory to another: so many steps up, and names down from there. -/
structure Trail where
  ups : Nat := 0
  names : List String := []
deriving Repr, DecidableEq

namespace Trail

def step (t : Trail) : Component → Trail
  | .up =>
    if t.names = [] then { t with ups := t.ups + 1 } else { t with names := t.names.dropLast }
  | .normal name => { t with names := t.names ++ [name] }
  | .root | .here => t

def ofPath (path : String) : Trail :=
  (components path).foldl step {}

def follow (t : Trail) (dir : List String) : List String :=
  dir.take (dir.length - t.ups) ++ t.names

theorem walk_follow (t : Trail) (dir : List String) {c : Component} (inner : c ≠ .root) :
    walk (t.follow dir) c = (t.step c).follow dir := by
  cases c with
  | root => exact absurd rfl inner
  | here => rfl
  | normal name => exact List.append_assoc _ _ _
  | up =>
    -- Without names to take back, the step goes up from the directory itself.
    by_cases bare : t.names = []
    · have shorter : (dir.take (dir.length - t.ups)).dropLast =
          dir.take (dir.length - (t.ups + 1)) := by
        rw [List.dropLast_eq_take, List.length_take, List.take_take]
        congr 1
        omega
      simpa [walk, follow, step, bare] using shorter
    · simp [walk, follow, step, bare, List.dropLast_append_of_ne_nil]

theorem foldl_walk_follow (t : Trail) (dir : List String) {cs : List Component}
    (inner : .root ∉ cs) : cs.foldl walk (t.follow dir) = (cs.foldl step t).follow dir := by
  induction cs generalizing t with
  | nil => rfl
  | cons c cs ih =>
    rw [List.mem_cons, not_or] at inner
    rw [List.foldl_cons, List.foldl_cons, walk_follow t dir (Ne.symm inner.1), ih _ inner.2]

/-- Where a trail leads, it leads through a directory and a name below it exactly when it comes down
again through all the names that it went up. -/
theorem through_iff (t : Trail) (dir : List String) (name : String) :
    (∃ more, t.follow dir = dir ++ name :: more) ↔
      dir.drop (dir.length - t.ups) ++ [name] <+: t.names := by
  have parts : dir.take (dir.length - t.ups) ++ dir.drop (dir.length - t.ups) = dir :=
    List.take_append_drop _ dir
  constructor
  · rintro ⟨more, led⟩
    refine ⟨more, ?_⟩
    have whole : dir.take (dir.length - t.ups) ++
        (dir.drop (dir.length - t.ups) ++ [name] ++ more) =
          dir.take (dir.length - t.ups) ++ t.names := by
      rw [← List.append_assoc, ← List.append_assoc, parts, List.append_assoc]
      exact led.symm
    exact List.append_cancel_left whole
  · rintro ⟨more, down⟩
    refine ⟨more, ?_⟩
    rw [follow, ← down, ← List.append_assoc, ← List.append_assoc, parts, List.append_assoc]
    rfl

end Trail

def Component.isName : Component → Bool
  | .normal _ => true
  | _ => false

/-- At no point have there been more steps up than names. -/
def StaysInside (cs : List Component) : Prop :=
  ∀ n ≤ cs.length, (cs.take n).count .up ≤ (cs.take n).countP Component.isName

/- What lies below the first name is what steps up can take back, so the induction carries it. -/
theorem foldl_step_inside {name : String} {more : List String} {cs : List Component}
    (inside : ∀ n ≤ cs.length,
      (cs.take n).count .up ≤ (cs.take n).countP Component.isName + more.length) :
    ∃ names, cs.foldl Trail.step ⟨0, name :: more⟩ = ⟨0, name :: names⟩ := by
  induction cs generalizing more with
  | nil => exact ⟨more, rfl⟩
  | cons c cs ih =>
    have later (n : Nat) (bound : n ≤ cs.length) := inside (n + 1) (Nat.succ_le_succ bound)
    simp only [List.take_succ_cons, List.count_cons, List.countP_cons] at later
    cases c with
    | root | here => exact ih (by simpa [Component.isName] using later)
    | normal child =>
      have deeper (n : Nat) (bound : n ≤ cs.length) : (cs.take n).count .up ≤
          (cs.take n).countP Component.isName + (more ++ [child]).length := by
        have fact := later n bound
        simp [Component.isName] at fact ⊢
        omega
      exact ih deeper
    | up =>
      have something : more ≠ [] := by
        rintro rfl
        have fact := later 0 (Nat.zero_le _)
        simp [Component.isName] at fact
      have higher (n : Nat) (bound : n ≤ cs.length) : (cs.take n).count .up ≤
          (cs.take n).countP Component.isName + more.dropLast.length := by
        have fact := later n bound
        simp [Component.isName] at fact ⊢
        omega
      obtain ⟨names, led⟩ := ih higher
      refine ⟨names, ?_⟩
      rw [List.foldl_cons, ← led, Trail.step, if_neg (List.cons_ne_nil _ _),
        List.dropLast_cons_of_ne_nil something]

theorem resolved_eq_follow {base path r : String} (found : relative? base path = some r) :
    resolved path = (Trail.ofPath r).follow (resolved base) := by
  obtain ⟨s, rest, read⟩ := relative?_starts found
  have below := relative?_iff.1 ⟨r, found, read⟩
  rw [resolved, below, List.foldl_append, ← read]
  have start : (components base).foldl walk [] = Trail.follow {} (resolved base) := by
    simp [Trail.follow, resolved]
  rw [start, Trail.foldl_walk_follow _ _ (relative?_rootless found)]
  rfl

theorem names_of_plain {cs : List Component} (plain : ∀ c ∈ cs, ∃ name, c = .normal name) :
    ∃ names : List String, cs = names.map .normal ∧
      ∀ dir : List String, cs.foldl walk dir = dir ++ names := by
  induction cs with
  | nil => exact ⟨[], rfl, fun dir => (List.append_nil dir).symm⟩
  | cons c cs ih =>
    obtain ⟨⟨name, rfl⟩, later⟩ := List.forall_mem_cons.1 plain
    obtain ⟨names, rfl, led⟩ := ih later
    refine ⟨name :: names, rfl, fun dir => ?_⟩
    rw [List.foldl_cons, led, walk, List.append_assoc]
    rfl

/- Nothing is left to resolve in a path from the root without double dots. -/
theorem components_of_plain {path : String} (absolute : isAbsolute path = true)
    (plain : .up ∉ components path) : components path = .root :: (resolved path).map .normal := by
  obtain ⟨text, slash⟩ := List.head?_eq_some_iff.1 (eq_of_beq absolute)
  have whole : components path = .root :: body (segments text) := by
    have something : path ≠ "" := by
      rintro rfl
      cases slash
    rw [components_eq_lead something, slash]
    rfl
  have named : ∀ c ∈ body (segments text), ∃ name, c = .normal name := by
    intro c member
    obtain ⟨s, _, _, rfl⟩ := mem_body member
    refine ⟨String.ofList s, ofSegment_normal.2 ⟨?_, rfl⟩⟩
    rintro rfl
    exact plain (by rw [whole]; exact List.mem_cons_of_mem _ member)
  obtain ⟨names, said, led⟩ := names_of_plain named
  have reached : resolved path = names := by
    rw [resolved, whole, List.foldl_cons]
    exact led []
  rw [whole, said, reached]

end Path

namespace Filter

/-- A path below the source directory leads to where its trail leads from there. It ends up in the
module it is given exactly when the trail comes down again through the names of the source directory
that it went up, and through the module. That is so in particular if behind the module there are
never more steps up than names. -/
theorem resolved_in_module_iff (f : Filter) (path r : String)
    (absolute : Path.isAbsolute f.sourceDir = true) (plain : .up ∉ Path.components f.sourceDir)
    (found : f.relative? path = some r) :
    ∃ (base : List String) (s : String) (rest : List Path.Component),
      Path.components f.sourceDir = .root :: base.map .normal ∧
      f.module? path = some s ∧ Path.components r = .normal s :: rest ∧
      Path.resolved path = (Path.Trail.ofPath r).follow base ∧
      ((∃ more, Path.resolved path = base ++ s :: more) ↔
        base.drop (base.length - (Path.Trail.ofPath r).ups) ++ [s] <+:
          (Path.Trail.ofPath r).names) ∧
      (Path.StaysInside rest → ∃ more, Path.resolved path = base ++ s :: more) := by
  obtain ⟨s, rest, named, _, read⟩ := relative?_named found
  have led := Path.resolved_eq_follow found
  refine ⟨Path.resolved f.sourceDir, s, rest, Path.components_of_plain absolute plain, named, read,
    led, ?_, ?_⟩
  · rw [led]
    exact Path.Trail.through_iff _ _ _
  · intro inside
    obtain ⟨names, kept⟩ : ∃ names, rest.foldl Path.Trail.step ⟨0, [s]⟩ = ⟨0, s :: names⟩ :=
      Path.foldl_step_inside inside
    refine ⟨names, ?_⟩
    have trail : Path.Trail.ofPath r = ⟨0, s :: names⟩ := by
      rw [Path.Trail.ofPath, read]
      exact kept
    rw [led, trail]
    simp [Path.Trail.follow]

/-- A way down into a directory of the module and back up to the module. -/
theorem detour_stays_in_module :
    let f : Filter := ⟨"/repo/src", []⟩
    let path := "/repo/src/m/n/../x.ts"
    Path.isAbsolute f.sourceDir = true ∧ .up ∉ Path.components f.sourceDir ∧
      f.relative? path = some "m/n/../x.ts" ∧ f.module? path = some "m" ∧
      Path.resolved path = ["repo", "src", "m", "x.ts"] ∧
      ∃ base s more, Path.components f.sourceDir = .root :: base.map .normal ∧
        f.module? path = some s ∧ Path.resolved path = base ++ s :: more := by
  intro f path
  have absolute : Path.isAbsolute f.sourceDir = true := by decide
  have plain : .up ∉ Path.components f.sourceDir := by decide +kernel
  have found : f.relative? path = some "m/n/../x.ts" := by decide +kernel
  refine ⟨absolute, plain, found, by decide +kernel, by decide +kernel, ?_⟩
  obtain ⟨base, s, rest, parts, named, read, _, _, inside⟩ :=
    resolved_in_module_iff f path "m/n/../x.ts" absolute plain found
  have behind : rest = [.normal "n", .up, .normal "x.ts"] := by
    have whole : Path.components "m/n/../x.ts" =
        [.normal "m", .normal "n", .up, .normal "x.ts"] := by decide +kernel
    exact (List.cons.inj (read.symm.trans whole)).2
  obtain ⟨more, led⟩ := inside (by rw [behind]; unfold Path.StaysInside; decide +kernel)
  exact ⟨base, s, more, parts, named, led⟩

/-- A path that leads out of the source directory has a module all the same. -/
theorem way_out_has_module :
    let f : Filter := ⟨"/repo/src", []⟩
    let path := "/repo/src/m/../../x.ts"
    Path.isAbsolute f.sourceDir = true ∧ .up ∉ Path.components f.sourceDir ∧
      Path.isAbsolute path = true ∧ f.relative? path = some "m/../../x.ts" ∧
      f.module? path = some "m" ∧ Path.resolved f.sourceDir = ["repo", "src"] ∧
      Path.resolved path = ["repo", "x.ts"] ∧
      ¬ ∃ s more, Path.resolved path = Path.resolved f.sourceDir ++ s :: more := by
  intro f path
  have base : Path.resolved f.sourceDir = ["repo", "src"] := by decide +kernel
  have led : Path.resolved path = ["repo", "x.ts"] := by decide +kernel
  refine ⟨by decide, by decide +kernel, by decide, by decide +kernel, by decide +kernel, base,
    led, ?_⟩
  rintro ⟨s, more, below⟩
  rw [base, led] at below
  simp at below

end Filter

end Commentary
