import Commentary.Filter
import Commentary.Proofs.Tidiness
import Mathlib.Logic.Relation

/-! Paths by their components. A path below a base is found by taking the components of the base off
its front, and what is left is a text again, which is read once more for the module. Here both steps
are put in terms of components alone, so that it does not matter how either path is written. -/
namespace Commentary

namespace Path

open Text

/-- A name that can stand between two slashes and leads nowhere else. -/
structure IsName (name : String) : Prop where
  filled : name ≠ ""
  whole : '/' ∉ name.toList
  not_here : name ≠ "."
  not_up : name ≠ ".."

section Body

variable {s : List Char} {pieces rest : List (List Char)} {cs : List Component}

theorem body_append (pieces rest : List (List Char)) :
    body (pieces ++ rest) = body pieces ++ body rest := by
  simp [body]

theorem body_void (void : isVoid s = true) (rest : List (List Char)) :
    body (s :: rest) = body rest := by
  simp [body, void]

theorem body_filled (filled : isVoid s = false) (rest : List (List Char)) :
    body (s :: rest) = ofSegment s :: body rest := by
  simp [body, filled]

theorem body_reverse (pieces : List (List Char)) : body pieces.reverse = (body pieces).reverse := by
  simp [body]

theorem body_dropWhile (pieces : List (List Char)) :
    body (pieces.dropWhile isVoid) = body pieces := by
  induction pieces with
  | nil => rfl
  | cons s rest ih =>
    cases void : isVoid s with
    | true => rw [List.dropWhile_cons_of_pos void, ih, body_void void]
    | false => rw [List.dropWhile_cons_of_neg (by simp [void])]

theorem body_trimVoid (pieces : List (List Char)) : body (trimVoid pieces) = body pieces := by
  rw [trimVoid, body_reverse, body_dropWhile, body_reverse, List.reverse_reverse, body_dropWhile]

theorem trimVoid_sublist (pieces : List (List Char)) : (trimVoid pieces).Sublist pieces :=
  (List.rdropWhile_prefix isVoid _).sublist.trans (List.dropWhile_suffix isVoid).sublist

theorem filled_trimVoid (first : (trimVoid pieces).head? = some s) : isVoid s = false :=
  head_rdropWhile_dropWhile first

theorem ofSegment_up : ofSegment s = .up ↔ s = ['.', '.'] := by
  unfold ofSegment
  split <;> simp_all

theorem ofSegment_normal {name : String} :
    ofSegment s = .normal name ↔ s ≠ ['.', '.'] ∧ String.ofList s = name := by
  unfold ofSegment
  split <;> simp_all

theorem ofSegment_injective {s t : List Char} (same : ofSegment s = ofSegment t) : s = t := by
  by_cases up : t = ['.', '.']
  · rw [ofSegment_up.2 up] at same
    rw [ofSegment_up.1 same, up]
  · rw [show ofSegment t = .normal (String.ofList t) from if_neg up, ofSegment_normal] at same
    exact String.ofList_injective same.2

theorem mem_body {c : Component} (member : c ∈ body pieces) :
    ∃ s ∈ pieces, isVoid s = false ∧ ofSegment s = c := by
  obtain ⟨s, kept, said⟩ := List.mem_map.1 member
  obtain ⟨here, filled⟩ := List.mem_filter.1 kept
  exact ⟨s, here, by simpa using filled, said⟩

theorem isName_of_mem_body {name : String} (plain : ∀ s ∈ pieces, '/' ∉ s)
    (member : .normal name ∈ body pieces) : IsName name := by
  obtain ⟨s, here, filled, said⟩ := mem_body member
  obtain ⟨other, rfl⟩ := ofSegment_normal.1 said
  have text (t : String) : String.ofList s = t ↔ s = t.toList := by
    rw [← String.toList_inj, String.toList_ofList]
  refine ⟨fun same => ?_, by simpa using plain s here, fun same => ?_,
    fun same => other ((text "..").1 same)⟩
  · rw [(text "").1 same] at filled
    cases filled
  · rw [(text ".").1 same] at filled
    cases filled

/-- Components are taken off the segments exactly when the segments start with them. -/
theorem consume_iff {tail : List Component} :
    (∃ rest, consume cs pieces = some rest ∧ body rest = tail) ↔ body pieces = cs ++ tail := by
  fun_induction consume cs pieces with
  | case1 pieces => simp
  | case2 c cs => simp [body]
  | case3 c cs s pieces void ih => rw [ih, body_void void]
  | case4 cs s pieces filled ih =>
    rw [ih, body_filled (by simpa using filled), List.cons_append, List.cons_inj_right]
  | case5 c cs s pieces filled other =>
    rw [body_filled (by simpa using filled), List.cons_append]
    simp [other]

theorem consume_suffix (taken : consume cs pieces = some rest) : rest <:+ pieces := by
  fun_induction consume cs pieces with
  | case1 pieces => cases taken; exact List.suffix_refl _
  | case2 | case5 => cases taken
  | case3 c cs s pieces void ih => exact (ih taken).trans (List.suffix_cons s pieces)
  | case4 cs s pieces filled ih => exact (ih taken).trans (List.suffix_cons s pieces)

end Body

/-- The components that segments stand for, of which the first may be the root or a single dot. -/
def lead : List (List Char) → List Component
  | [] :: more => .root :: body more
  | ['.'] :: more => .here :: body more
  | pieces => body pieces

theorem components_eq_lead {path : String} (filled : path ≠ "") :
    components path = lead (segments path.toList) := by
  have not_alone : segments path.toList ≠ [[]] := by
    intro alone
    have whole := joined_cut '/' path.toList
    rw [show cut '/' path.toList = [[]] from alone] at whole
    exact filled (String.toList_inj.1 whole.symm)
  unfold components split
  match pieces : segments path.toList with
  | [] => rfl
  | [[]] => exact absurd pieces not_alone
  | [] :: next :: more => rfl
  | ['.'] :: more => rfl
  | (c :: d :: s) :: more => simp [lead]
  | [c] :: more =>
    by_cases dot : c = '.'
    · subst dot
      rfl
    · simp [lead, dot]

theorem lead_append {pieces : List (List Char)} (some_piece : pieces ≠ [])
    (rest : List (List Char)) : lead (pieces ++ rest) = lead pieces ++ body rest := by
  match pieces with
  | [] => exact absurd rfl some_piece
  | [] :: more => simp [lead, body_append]
  | (c :: d :: s) :: more => simp [lead, ← body_append]
  | [c] :: more =>
    by_cases dot : c = '.'
    · subst dot
      simp [lead, body_append]
    · simp [lead, dot, ← body_append]

theorem lead_filled {s : List Char} (filled : isVoid s = false) (rest : List (List Char)) :
    lead (s :: rest) = body (s :: rest) := by
  unfold lead
  split
  · rename_i same
    cases same
    cases filled
  · rename_i same
    cases same
    cases filled
  · rfl

theorem lead_append_filled {s : List Char} (filled : isVoid s = false)
    (pieces rest : List (List Char)) :
    lead (pieces ++ s :: rest) = lead pieces ++ ofSegment s :: body rest := by
  cases pieces with
  | nil => rw [List.nil_append, lead_filled filled, body_filled filled]; rfl
  | cons first more => rw [lead_append (List.cons_ne_nil _ _), body_filled filled]

theorem plain_segments (text : List Char) : ∀ s ∈ segments text, '/' ∉ s :=
  fun _ member slash => (mem_of_mem_cut member _ slash).2 rfl

theorem split_segments (path : String) : (split path).2 <:+ segments path.toList := by
  unfold split
  split
  · rename_i next more pieces
    rw [pieces]
    exact List.suffix_cons _ _
  · rename_i more pieces
    rw [pieces]
    exact List.suffix_cons _ _
  · exact List.suffix_refl _

theorem split_start {path : String} {c : Component} (start : (split path).1 = some c) :
    c = .root ∨ c = .here := by
  unfold split at start
  split at start <;> simp_all

theorem isName_of_mem {path name : String} (member : .normal name ∈ components path) :
    IsName name := by
  rcases List.mem_append.1 member with start | behind
  · rcases split_start (Option.mem_toList.1 start) with root | here
    · cases root
    · cases here
  · exact isName_of_mem_body
      (fun s inside => plain_segments _ s ((split_segments path).subset inside)) behind

section Below

variable {base path : String} {pieces : List (List Char)}

theorem below_trimmed (found : below base path = some pieces) :
    ∃ raw, raw <:+ segments path.toList ∧ pieces = trimVoid raw := by
  have inside := split_segments path
  unfold below at found
  split at found
  · rename_i raw _ parts
    rw [parts] at inside
    exact ⟨raw, inside, (Option.some.inj found).symm⟩
  · cases found
  · rename_i raw _ parts
    rw [parts] at inside
    split at found
    · obtain ⟨rest, taken, rfl⟩ := Option.map_eq_some_iff.1 found
      exact ⟨rest, (consume_suffix taken).trans inside, rfl⟩
    · cases found
  · rename_i raw _ parts _
    rw [parts] at inside
    obtain ⟨rest, taken, rfl⟩ := Option.map_eq_some_iff.1 found
    exact ⟨rest, (consume_suffix taken).trans inside, rfl⟩

theorem consume_trimmed_iff {cs tail : List Component} {raw : List (List Char)} :
    (∃ pieces, (consume cs raw).map trimVoid = some pieces ∧ body pieces = tail) ↔
      body raw = cs ++ tail := by
  rw [← consume_iff]
  constructor
  · rintro ⟨pieces, trimmed, rfl⟩
    obtain ⟨rest, taken, rfl⟩ := Option.map_eq_some_iff.1 trimmed
    exact ⟨rest, taken, (body_trimVoid rest).symm⟩
  · rintro ⟨rest, taken, rfl⟩
    exact ⟨trimVoid rest, by rw [taken]; rfl, body_trimVoid rest⟩

/-- A path lies below a base exactly when its components start with those of the base. Where a path
starts is settled by the base, unless the base is empty. -/
theorem below_iff {c : Component} {tail : List Component} (inner : c ≠ .root ∧ c ≠ .here) :
    (∃ pieces, below base path = some pieces ∧ body pieces = c :: tail) ↔
      components path = components base ++ c :: tail := by
  have started := @split_start path
  unfold below
  rw [show components path = (split path).1.toList ++ body (split path).2 from rfl]
  generalize split path = parts at started ⊢
  obtain ⟨start, raw⟩ := parts
  cases components base with
  | nil =>
    cases start with
    | none => simp [body_trimVoid]
    | some h =>
      -- An empty base leaves the start of the path where it is, and a start is no part of a body.
      have other : h ≠ c := by
        rintro rfl
        exact (started rfl).elim inner.1 inner.2
      simp [other]
  | cons b cs =>
    cases start with
    | none => exact consume_trimmed_iff
    | some h =>
      by_cases same : h = b
      · subst same
        simp only [if_true, Option.toList_some, List.cons_append, List.nil_append,
          List.cons_inj_right]
        exact consume_trimmed_iff
      · simp [same]

theorem relative?_eq_some_iff {r : String} :
    relative? base path = some r ↔
      ∃ s more, below base path = some (s :: more) ∧ s ≠ ['.', '.'] ∧
        r = String.ofList (joined '/' (s :: more)) := by
  unfold relative?
  constructor
  · intro found
    split at found
    · rename_i s more here
      split at found
      · cases found
      · rename_i name
        exact ⟨s, more, here, name, (Option.some.inj found).symm⟩
    · cases found
  · rintro ⟨s, more, here, name, rfl⟩
    simp only [here, if_neg name]

theorem components_joined {s : List Char} {more : List (List Char)} (filled : isVoid s = false)
    (plain : ∀ piece ∈ s :: more, '/' ∉ piece) :
    components (String.ofList (joined '/' (s :: more))) = body (s :: more) := by
  have again : segments (joined '/' (s :: more)) = s :: more :=
    cut_joined (List.cons_ne_nil _ _) plain
  have something : String.ofList (joined '/' (s :: more)) ≠ "" := by
    intro nothing
    rw [show joined '/' (s :: more) = [] from String.ofList_injective nothing] at again
    cases again
    cases filled
  rw [components_eq_lead something, String.toList_ofList, again, lead_filled filled]

theorem filled_below {s : List Char} {more : List (List Char)}
    (found : below base path = some (s :: more)) : isVoid s = false := by
  obtain ⟨raw, _, trimmed⟩ := below_trimmed found
  have first : (trimVoid raw).head? = some s := by
    rw [← trimmed]
    rfl
  exact filled_trimVoid first

/- The text that is left is read again, to the components that are left. -/
theorem components_below {s : List Char} {more : List (List Char)}
    (found : below base path = some (s :: more)) :
    components (String.ofList (joined '/' (s :: more))) = body (s :: more) := by
  obtain ⟨raw, inside, trimmed⟩ := below_trimmed found
  refine components_joined (filled_below found) fun piece member => ?_
  rw [trimmed] at member
  exact plain_segments _ piece (inside.subset ((trimVoid_sublist raw).subset member))

theorem relative?_iff {name : String} {rest : List Component} :
    (∃ r, relative? base path = some r ∧ components r = .normal name :: rest) ↔
      components path = components base ++ .normal name :: rest := by
  rw [← below_iff (by simp)]
  constructor
  · rintro ⟨r, found, read⟩
    obtain ⟨s, more, here, _, rfl⟩ := relative?_eq_some_iff.1 found
    exact ⟨s :: more, here, (components_below here).symm.trans read⟩
  · rintro ⟨pieces, here, said⟩
    cases pieces with
    | nil => cases said
    | cons s more =>
      have first : ofSegment s = .normal name := by
        rw [body_filled (filled_below here)] at said
        exact (List.cons.inj said).1
      exact ⟨_, relative?_eq_some_iff.2 ⟨s, more, here, (ofSegment_normal.1 first).1, rfl⟩,
        (components_below here).trans said⟩

theorem relative?_rootless {r : String} (found : relative? base path = some r) :
    .root ∉ components r := by
  obtain ⟨s, more, here, _, rfl⟩ := relative?_eq_some_iff.1 found
  rw [components_below here]
  intro member
  obtain ⟨piece, _, _, said⟩ := mem_body member
  unfold ofSegment at said
  split at said <;> cases said

theorem relative?_starts {r : String} (found : relative? base path = some r) :
    ∃ name rest, components r = .normal name :: rest := by
  obtain ⟨s, more, here, not_up, rfl⟩ := relative?_eq_some_iff.1 found
  refine ⟨String.ofList s, body more, ?_⟩
  rw [components_below here, body_filled (filled_below here), ofSegment_normal.2 ⟨not_up, rfl⟩]

end Below

section Spelling

/-- Ways to write the same path: with a repeated slash, with a single dot inside, and with a slash
or a single dot at the end. -/
inductive Respelling : String → String → Prop
  | slash (front rest : String) : Respelling (front ++ "//" ++ rest) (front ++ "/" ++ rest)
  | dot (front rest : String) : Respelling (front ++ "/./" ++ rest) (front ++ "/" ++ rest)
  | last_slash (front : String) (filled : front ≠ "") : Respelling (front ++ "/") front
  | last_dot (front : String) (filled : front ≠ "") : Respelling (front ++ "/.") front

/-- Two paths that differ by such ways of writing only. -/
def SamePath : String → String → Prop :=
  Relation.EqvGen Respelling

theorem components_slash (front rest : String) :
    components (front ++ "/" ++ rest) =
      lead (segments front.toList) ++ body (segments rest.toList) := by
  have text : (front ++ "/" ++ rest).toList = front.toList ++ '/' :: rest.toList := by simp
  have something : front ++ "/" ++ rest ≠ "" := by
    rw [Ne, ← String.toList_inj, text]
    simp
  rw [components_eq_lead something, text, segments, cut_append]
  exact lead_append (cut_ne_nil _) _

theorem body_segments_void {piece : List Char} (void : isVoid piece = true) :
    body (segments piece) = [] := by
  simp only [isVoid, Bool.or_eq_true, beq_iff_eq] at void
  rcases void with rfl | rfl <;> rfl

theorem components_void_inside {piece : String} (void : isVoid piece.toList = true)
    (front rest : String) :
    components (front ++ "/" ++ (piece ++ "/" ++ rest)) = components (front ++ "/" ++ rest) := by
  have text : (piece ++ "/" ++ rest).toList = piece.toList ++ '/' :: rest.toList := by simp
  have pieces : segments (piece ++ "/" ++ rest).toList =
      segments piece.toList ++ segments rest.toList := by
    rw [text]
    exact cut_append _ _
  rw [components_slash, components_slash, pieces, body_append, body_segments_void void]
  rfl

theorem components_void_last {front piece : String} (filled : front ≠ "")
    (void : isVoid piece.toList = true) :
    components (front ++ "/" ++ piece) = components front := by
  rw [components_slash, body_segments_void void, List.append_nil, components_eq_lead filled]

theorem Respelling.components_eq {p q : String} (respelled : Respelling p q) :
    components p = components q := by
  cases respelled with
  | slash front rest =>
    have text : front ++ "//" ++ rest = front ++ "/" ++ ("" ++ "/" ++ rest) := by
      simp [← String.toList_inj]
    rw [text]
    exact components_void_inside rfl front rest
  | dot front rest =>
    have text : front ++ "/./" ++ rest = front ++ "/" ++ ("." ++ "/" ++ rest) := by
      simp [← String.toList_inj]
    rw [text]
    exact components_void_inside rfl front rest
  | last_slash _ filled =>
    have text : q ++ "/" = q ++ "/" ++ "" := by simp
    rw [text]
    exact components_void_last filled rfl
  | last_dot _ filled =>
    have text : q ++ "/." = q ++ "/" ++ "." := by simp [← String.toList_inj]
    rw [text]
    exact components_void_last filled rfl

theorem SamePath.components_eq {p q : String} (same : SamePath p q) :
    components p = components q := by
  induction same with
  | rel p q respelled => exact respelled.components_eq
  | refl p => rfl
  | symm p q _ ih => exact ih.symm
  | trans p q r _ _ first second => exact first.trans second

/-- The last segment is there and more than a single dot. -/
def EndsInName (path : String) : Prop :=
  ∃ s, (segments path.toList).getLast? = some s ∧ isVoid s = false

/- What goes on with a longer name than the base ends in is somewhere else. -/
theorem longer_name_not_below {base : String} (ends : EndsInName base) {c : Char} (other : c ≠ '/')
    (more : List Char) (tail : List Component) :
    components (base ++ String.ofList (c :: more)) ≠ components base ++ tail := by
  obtain ⟨last, final, filled⟩ := ends
  obtain ⟨before, pieces⟩ := List.getLast?_eq_some_iff.1 final
  have some_piece : cut '/' more ≠ [] := cut_ne_nil more
  obtain ⟨first, behind, later⟩ := List.exists_cons_of_ne_nil some_piece
  have longer : segments (base ++ String.ofList (c :: more)).toList =
      before ++ (last ++ c :: first) :: behind := by
    rw [String.toList_append, String.toList_ofList]
    refine cut_append_inside pieces ?_
    rw [cut, if_neg other, later]
    rfl
  have still : isVoid (last ++ c :: first) = false := by
    cases last with
    | nil => cases filled
    | cons d rest => simp [isVoid]
  have something : base ≠ "" := by
    rintro rfl
    obtain ⟨-, rfl⟩ := List.append_singleton_inj.1
      (show [] ++ [[]] = before ++ [last] from pieces)
    cases filled
  -- Up to the last segment of the base both read alike, and there the longer name stands.
  rw [components_eq_lead something, components_eq_lead (by simp), longer, pieces,
    lead_append_filled filled, lead_append_filled still, List.append_assoc]
  intro same
  have extended := ofSegment_injective (List.cons.inj (List.append_cancel_left same)).1
  simp at extended

end Spelling

end Path

namespace Filter

variable {f : Filter} {path s : String}

theorem head_normal_iff {components : List Path.Component} :
    (match components.head? with
      | some (.normal name) => some name
      | _ => none) = some s ↔ ∃ rest, components = .normal s :: rest := by
  match components with
  | [] => simp
  | .normal name :: rest => simp
  | .root :: rest | .here :: rest | .up :: rest => simp

theorem module?_eq_some_iff :
    f.module? path = some s ↔
      ∃ rest, Path.components path = Path.components f.sourceDir ++ .normal s :: rest := by
  unfold module?
  rw [Option.bind_eq_some_iff]
  constructor
  · rintro ⟨r, found, first⟩
    obtain ⟨rest, read⟩ := head_normal_iff.1 first
    exact ⟨rest, Path.relative?_iff.1 ⟨r, found, read⟩⟩
  · rintro ⟨rest, below⟩
    obtain ⟨r, found, read⟩ := Path.relative?_iff.2 below
    exact ⟨r, found, head_normal_iff.2 ⟨rest, read⟩⟩

theorem module?_congr {g : Filter} {p : String}
    (base : Path.components g.sourceDir = Path.components f.sourceDir)
    (same : Path.components p = Path.components path) : g.module? p = f.module? path := by
  refine Option.ext fun s => ?_
  rw [module?_eq_some_iff, module?_eq_some_iff, base, same]

theorem relative?_named {r : String} (found : f.relative? path = some r) :
    ∃ s rest, f.module? path = some s ∧
      Path.components path = Path.components f.sourceDir ++ .normal s :: rest ∧
      Path.components r = .normal s :: rest := by
  obtain ⟨s, rest, read⟩ := Path.relative?_starts found
  have below := Path.relative?_iff.1 ⟨r, found, read⟩
  exact ⟨s, rest, module?_eq_some_iff.2 ⟨rest, below⟩, below, read⟩

theorem isSome_relative? (f : Filter) (path : String) :
    (f.relative? path).isSome = (f.module? path).isSome := by
  cases found : f.relative? path with
  | none => simp [module?, found]
  | some r =>
    obtain ⟨s, _, named, _⟩ := relative?_named found
    rw [named]
    rfl

/-- The module of a path is the name that follows the components of the source directory among
those of the path. The relative path is there in the same cases, and reads as that name and
whatever follows it. So the module is a name for certain, it stays when either path is written in
another way, and a directory whose name only starts like that of the source directory has none. -/
theorem module_by_components (f : Filter) (path : String) :
    (∀ s, f.module? path = some s ↔
      ∃ rest, Path.components path = Path.components f.sourceDir ++ .normal s :: rest) ∧
    (f.relative? path).isSome = (f.module? path).isSome ∧
    (∀ r, f.relative? path = some r → ∃ s rest, f.module? path = some s ∧
      Path.components path = Path.components f.sourceDir ++ .normal s :: rest ∧
      Path.components r = .normal s :: rest) ∧
    (∀ s, f.module? path = some s → Path.IsName s) ∧
    (∀ (g : Filter) (p : String), Path.SamePath g.sourceDir f.sourceDir → Path.SamePath p path →
      g.module? p = f.module? path) ∧
    (∀ (dir : String) (c : Char) (more : List Char), Path.SamePath dir f.sourceDir →
      Path.EndsInName dir → c ≠ '/' →
      f.module? (dir ++ String.ofList (c :: more)) = none ∧
      f.relative? (dir ++ String.ofList (c :: more)) = none) := by
  refine ⟨fun s => module?_eq_some_iff, isSome_relative? f path, fun r => relative?_named, ?_,
    fun g p base same => module?_congr base.components_eq same.components_eq, ?_⟩
  · intro s named
    obtain ⟨rest, below⟩ := module?_eq_some_iff.1 named
    have member : .normal s ∈ Path.components path := by simp [below]
    exact Path.isName_of_mem member
  · intro dir c more same ends other
    have outside : f.module? (dir ++ String.ofList (c :: more)) = none := by
      rw [Option.eq_none_iff_forall_ne_some]
      intro s named
      obtain ⟨rest, below⟩ := module?_eq_some_iff.1 named
      rw [← same.components_eq] at below
      exact Path.longer_name_not_below ends other more _ below
    refine ⟨outside, ?_⟩
    rw [← Option.isNone_iff_eq_none, ← Option.not_isSome, isSome_relative?, outside]
    rfl

theorem doubled_slash_keeps_module :
    let f : Filter := ⟨"/repo/src", []⟩
    let g : Filter := ⟨"/repo//src/", []⟩
    Path.SamePath f.sourceDir g.sourceDir ∧
      Path.SamePath "/repo/src/m/a.ts" "/repo/./src/m/a.ts" ∧ Path.EndsInName f.sourceDir ∧
      g.relative? "/repo/./src/m/a.ts" = some "m/a.ts" ∧
      g.module? "/repo/./src/m/a.ts" = some "m" ∧ f.module? "/repo/src/m/a.ts" = some "m" ∧
      Path.IsName "m" ∧ g.module? "/repo/srcx/a.ts" = none := by
  intro f g
  have base : Path.SamePath f.sourceDir g.sourceDir :=
    .symm _ _ (.trans _ _ _ (.rel _ _ (.last_slash "/repo//src" (by decide)))
      (.rel _ _ (.slash "/repo" "src")))
  have same : Path.SamePath "/repo/src/m/a.ts" "/repo/./src/m/a.ts" :=
    .symm _ _ (.rel _ _ (.dot "/repo" "src/m/a.ts"))
  have ends : Path.EndsInName f.sourceDir := ⟨"src".toList, by decide +kernel, by decide +kernel⟩
  have named : g.module? "/repo/./src/m/a.ts" = some "m" := by decide +kernel
  obtain ⟨_, _, _, isName, kept, outside⟩ := module_by_components g "/repo/./src/m/a.ts"
  exact ⟨base, same, ends, by decide +kernel, named, (kept f _ base same).trans named,
    isName "m" named, (outside "/repo/src" 'x' "/a.ts".toList base ends (by decide)).1⟩

end Filter

end Commentary
