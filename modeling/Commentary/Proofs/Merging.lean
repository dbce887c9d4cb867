import Commentary.Proofs.Outline
import Commentary.Record.Merge
import Mathlib.Data.List.Nodup

/-! Merging parameter lists. A comment speaks of the first seeded parameter of a name; what speaks
of none of them is kept behind them. Names decide all of this, and merging changes no names. -/
namespace Commentary

namespace Param

theorem updateNamed_eq_none_iff {name : String} {f : Param → Param} {params : List Param} :
    updateNamed name f params = none ↔ name = "" ∨ name ∉ params.map Param.name := by
  induction params with
  | nil => simp [updateNamed]
  | cons p rest ih =>
    by_cases here : p.name ≠ "" ∧ p.name = name
    · obtain ⟨named, rfl⟩ := here
      simp [updateNamed, named]
    · rw [updateNamed, if_neg here, Option.map_eq_none_iff, ih, List.map_cons, List.mem_cons]
      grind

/-- The parameters after a change to the first one of a name. -/
def updated (name : String) (f : Param → Param) (params : List Param) : List Param :=
  (updateNamed name f params).getD params

theorem updated_cons (name : String) (f : Param → Param) (p : Param) (rest : List Param) :
    updated name f (p :: rest) =
      if p.name ≠ "" ∧ p.name = name then f p :: rest else p :: updated name f rest := by
  unfold updated
  rw [updateNamed]
  split
  · rfl
  · cases updateNamed name f rest <;> rfl

theorem map_name_updated (name : String) {f : Param → Param}
    (keeps : ∀ p, p.name ≠ "" → (f p).name = p.name) (params : List Param) :
    (updated name f params).map Param.name = params.map Param.name := by
  induction params with
  | nil => rfl
  | cons p rest ih =>
    rw [updated_cons]
    split
    · rename_i here
      rw [List.map_cons, List.map_cons, keeps p here.1]
    · rw [List.map_cons, List.map_cons, ih]

theorem getElem?_updated (name : String) (f : Param → Param) (params : List Param) (i : Nat) :
    (updated name f params)[i]? =
      if name ≠ "" ∧ (params.map Param.name)[i]? = some name ∧
          name ∉ (params.map Param.name).take i then
        params[i]?.map f
      else params[i]? := by
  induction params generalizing i with
  | nil => simp [updated, updateNamed]
  | cons p rest ih =>
    rw [updated_cons]
    cases i with
    | zero =>
      by_cases here : p.name ≠ "" ∧ p.name = name
      · obtain ⟨named, rfl⟩ := here
        simp [named]
      · rw [if_neg here]
        grind
    | succ i =>
      by_cases here : p.name ≠ "" ∧ p.name = name
      · obtain ⟨named, rfl⟩ := here
        simp [named]
      · rw [if_neg here, List.getElem?_cons_succ, ih]
        grind

theorem forall_mem_updated {P : Param → Prop} (name : String) {f : Param → Param}
    (keeps : ∀ p, P p → P (f p)) {params : List Param} (before : ∀ p ∈ params, P p) :
    ∀ p ∈ updated name f params, P p := by
  induction params with
  | nil => exact before
  | cons p rest ih =>
    obtain ⟨here, later⟩ := List.forall_mem_cons.1 before
    rw [updated_cons]
    split
    · exact List.forall_mem_cons.2 ⟨keeps p here, later⟩
    · exact List.forall_mem_cons.2 ⟨here, ih later⟩

end Param

namespace Doc

def DistinctNames (params : List Param) : Prop :=
  (params.map Param.name).Pairwise fun a b => a ≠ "" → a ≠ b

/-- What a comment says about the parameter at a place. It speaks of the first of each name. -/
def said (comment : List Param) (names : List String) (i : Nat) : Option Param :=
  names[i]?.bind fun name =>
    if name ≠ "" ∧ name ∉ names.take i then comment.find? (·.name = name) else none

def NamesNone (names : List String) (item : Param) : Prop :=
  item.name = "" ∨ item.name ∉ names

instance (names : List String) (item : Param) : Decidable (NamesNone names item) :=
  inferInstanceAs (Decidable (_ ∨ _))

theorem name_merge (item seed : Param) (named : seed.name ≠ "") :
    (seed.merge item).name = seed.name := by
  simp [Param.merge, named]

theorem mergeParam_eq (state : List Param × List Param) (item : Param) :
    mergeParam state item =
      (Param.updated item.name (·.merge item) state.1,
        state.2 ++ if NamesNone (state.1.map Param.name) item then [item] else []) := by
  unfold mergeParam Param.updated
  cases found : Param.updateNamed item.name (·.merge item) state.1 with
  | none =>
    have unspoken : NamesNone (state.1.map Param.name) item :=
      Param.updateNamed_eq_none_iff.1 found
    simp [unspoken]
  | some seeded =>
    have spoken : ¬ NamesNone (state.1.map Param.name) item := by
      intro unspoken
      rw [Param.updateNamed_eq_none_iff.2 unspoken] at found
      cases found
    simp [spoken]

theorem mergeParam_names (state : List Param × List Param) (item : Param) :
    (mergeParam state item).1.map Param.name = state.1.map Param.name := by
  rw [mergeParam_eq]
  exact Param.map_name_updated _ (name_merge item) _

theorem foldl_mergeParam_snd (comment : List Param) (state : List Param × List Param) :
    (comment.foldl mergeParam state).2 =
      state.2 ++ comment.filter fun item => NamesNone (state.1.map Param.name) item := by
  induction comment generalizing state with
  | nil => simp
  | cons item rest ih =>
    rw [List.foldl_cons, ih, mergeParam_names, mergeParam_eq, List.filter_cons]
    split <;> simp_all

theorem said_cons_of_hit {item : Param} {rest : List Param} {names : List String} {i : Nat}
    (hit : item.name ≠ "" ∧ names[i]? = some item.name ∧ item.name ∉ names.take i) :
    said (item :: rest) names i = some item := by
  simp [said, hit]

theorem said_cons_of_miss {item : Param} {rest : List Param} {names : List String} {i : Nat}
    (miss : ¬ (item.name ≠ "" ∧ names[i]? = some item.name ∧ item.name ∉ names.take i)) :
    said (item :: rest) names i = said rest names i := by
  unfold said
  cases here : names[i]? with
  | none => rfl
  | some name =>
    simp only [Option.bind_some]
    split
    · rename_i first
      have other : item.name ≠ name := by
        rintro rfl
        exact miss ⟨first.1, here, first.2⟩
      rw [List.find?_cons_of_neg (by simpa using other)]
    · rfl

theorem foldl_mergeParam_fst (comment : List Param) (distinct : DistinctNames comment)
    (state : List Param × List Param) (i : Nat) :
    (comment.foldl mergeParam state).1[i]? =
      state.1[i]?.map fun seed =>
        (said comment (state.1.map Param.name) i).elim seed seed.merge := by
  induction comment generalizing state with
  | nil =>
    have nothing : said [] (state.1.map Param.name) i = none := by
      unfold said
      cases (state.1.map Param.name)[i]? <;> simp
    simp [nothing]
  | cons item rest ih =>
    obtain ⟨new, distinct⟩ := List.pairwise_cons.1 distinct
    rw [List.foldl_cons, ih distinct, mergeParam_names, mergeParam_eq, Param.getElem?_updated]
    split
    · rename_i hit
      -- No later parameter of the comment has this name.
      have unsaid : said rest (state.1.map Param.name) i = none := by
        simp only [said, hit.2.1, Option.bind_some]
        rw [if_pos ⟨hit.1, hit.2.2⟩, List.find?_eq_none]
        intro later member same
        exact new _ (List.mem_map_of_mem member) hit.1 (of_decide_eq_true same).symm
      rw [unsaid, said_cons_of_hit hit, Option.map_map]
      rfl
    · rename_i miss
      rw [said_cons_of_miss miss]

/-- Each seeded parameter is merged with what the comment says about it, and what speaks of none of
them follows. -/
theorem mergeParams_eq (seeded comment : List Param) (distinct : DistinctNames comment) :
    mergeParams seeded comment =
      seeded.mapIdx (fun i seed =>
        (said comment (seeded.map Param.name) i).elim seed seed.merge) ++
      comment.filter fun item => NamesNone (seeded.map Param.name) item := by
  show (comment.foldl mergeParam (seeded, [])).1 ++ (comment.foldl mergeParam (seeded, [])).2 = _
  rw [foldl_mergeParam_snd, List.nil_append]
  congr 1
  apply List.ext_getElem?
  intro i
  rw [foldl_mergeParam_fst comment distinct, List.getElem?_mapIdx]

theorem map_name_mergeParams (seeded comment : List Param) :
    (mergeParams seeded comment).map Param.name = seeded.map Param.name ++
      (comment.filter fun item => NamesNone (seeded.map Param.name) item).map Param.name := by
  have seeds (state : List Param × List Param) :
      (comment.foldl mergeParam state).1.map Param.name = state.1.map Param.name := by
    induction comment generalizing state with
    | nil => rfl
    | cons item rest ih => rw [List.foldl_cons, ih, mergeParam_names]
  show ((comment.foldl mergeParam (seeded, [])).1 ++
    (comment.foldl mergeParam (seeded, [])).2).map Param.name = _
  rw [List.map_append, seeds, foldl_mergeParam_snd, List.nil_append]

theorem distinctNames_mergeParams {seeded comment : List Param} (source : DistinctNames seeded)
    (said : DistinctNames comment) : DistinctNames (mergeParams seeded comment) := by
  rw [DistinctNames, map_name_mergeParams]
  refine List.pairwise_append.2 ⟨source, said.sublist (List.filter_sublist.map _), ?_⟩
  -- What is kept behind the seeds has no name, or one that no seed has.
  rintro name known _ kept named rfl
  obtain ⟨item, member, rfl⟩ := List.mem_map.1 kept
  have unspoken : NamesNone (seeded.map Param.name) item :=
    of_decide_eq_true (List.mem_filter.1 member).2
  exact unspoken.elim named fun absent => absent known

theorem mem_of_said {comment : List Param} {names : List String} {i : Nat} {item : Param}
    (spoken : said comment names i = some item) : item ∈ comment := by
  obtain ⟨name, _, found⟩ := Option.bind_eq_some_iff.1 spoken
  split at found
  · exact List.mem_of_find?_eq_some found
  · cases found

/- A header that repeats a name is folded into the earlier one, so names stay distinct. -/
theorem distinctNames_insert {params : List Param} (distinct : DistinctNames params)
    (item : Param) : DistinctNames (Comment.insertParam params item) := by
  unfold Comment.insertParam
  cases found : Param.updateNamed item.name (fold · item) params with
  | none =>
    have new := Param.updateNamed_eq_none_iff.1 found
    rw [DistinctNames, Option.getD_none, List.map_append]
    refine List.pairwise_append.2 ⟨distinct, List.pairwise_singleton _ _, ?_⟩
    rintro name member last here named rfl
    obtain rfl : name = item.name := by simpa using here
    exact new.elim named (absurd member)
  | some changed =>
    have same : changed.map Param.name = params.map Param.name := by
      have keeps (p : Param) (_ : p.name ≠ "") : (fold p item).name = p.name := rfl
      have kept := Param.map_name_updated item.name keeps params
      rwa [Param.updated, found] at kept
    rw [DistinctNames, Option.getD_some, same]
    exact distinct

theorem distinctNames_foldl (items : List Param) {params : List Param}
    (distinct : DistinctNames params) :
    DistinctNames (items.foldl Comment.insertParam params) := by
  induction items generalizing params with
  | nil => exact distinct
  | cons item rest ih => exact ih (distinctNames_insert distinct item)

theorem distinctNames_ofBody {body : String} {doc : Doc} (read : ofBody body = .ok doc) :
    DistinctNames doc.params := by
  rw [ofBody_eq_read] at read
  rw [(Comment.Outline.folded_of_read read).1]
  exact distinctNames_foldl _ List.Pairwise.nil

theorem find?_of_distinct {comment : List Param} (distinct : DistinctNames comment) {item : Param}
    (member : item ∈ comment) (named : item.name ≠ "") :
    comment.find? (·.name = item.name) = some item := by
  induction comment with
  | nil => cases member
  | cons first rest ih =>
    obtain ⟨new, distinct⟩ := List.pairwise_cons.1 distinct
    rcases List.mem_cons.1 member with rfl | later
    · rw [List.find?_cons_of_pos (by simp)]
    · have other : first.name ≠ item.name := fun same =>
        new _ (List.mem_map_of_mem later) (same ▸ named) same
      rw [List.find?_cons_of_neg (by simpa using other), ih distinct later]

theorem said_eq_some_iff {comment : List Param} (distinct : DistinctNames comment)
    {names : List String} {i : Nat} {item : Param} :
    said comment names i = some item ↔
      item ∈ comment ∧ ¬ NamesNone names item ∧ names.idxOf item.name = i := by
  constructor
  · intro spoken
    obtain ⟨name, here, found⟩ := Option.bind_eq_some_iff.1 spoken
    split at found
    · rename_i first
      obtain rfl : item.name = name := by simpa using List.find?_some found
      have listed : item.name ∈ names := List.mem_of_getElem? here
      have before : item.name ∈ names.take (i + 1) :=
        List.mem_of_getElem? (by rw [List.getElem?_take_of_lt (Nat.lt_succ_self i), here])
      rw [List.mem_take_iff_idxOf_lt listed] at before
      have not_earlier := mt (List.mem_take_iff_idxOf_lt listed).2 first.2
      exact ⟨mem_of_said spoken, fun unspoken => unspoken.elim first.1 fun absent => absent listed,
        by omega⟩
    · cases found
  · rintro ⟨member, spoken, rfl⟩
    obtain ⟨named, listed⟩ : item.name ≠ "" ∧ item.name ∈ names := by
      simpa [NamesNone, not_or] using spoken
    have first : item.name ∉ names.take (names.idxOf item.name) := by
      rw [List.mem_take_iff_idxOf_lt listed]
      exact Nat.lt_irrefl _
    rw [said, List.getElem?_idxOf listed, Option.bind_some, if_pos ⟨named, first⟩]
    exact find?_of_distinct distinct member named

/- Every parameter of the comment has its place: with the one seed it speaks of, or behind them. -/
theorem said_append_kept_perm {comment : List Param} (distinct : DistinctNames comment)
    (names : List String) :
    ((List.range names.length).filterMap (said comment names) ++
      comment.filter fun item => NamesNone names item).Perm comment := by
  have once : ((List.range names.length).filterMap (said comment names)).Nodup := by
    refine List.Nodup.filterMap ?_ List.nodup_range
    intro i j item here there
    rw [← ((said_eq_some_iff distinct).1 here).2.2, ((said_eq_some_iff distinct).1 there).2.2]
  have named : (comment.filter fun item => !decide (NamesNone names item)).Nodup := by
    refine ((List.pairwise_map.1 distinct).filter _).imp_of_mem ?_
    rintro item _ member _ apart rfl
    have spoken : ¬ NamesNone names item := by simpa using (List.mem_filter.1 member).2
    exact apart (fun unnamed => spoken (.inl unnamed)) rfl
  have used : ((List.range names.length).filterMap (said comment names)).Perm
      (comment.filter fun item => !decide (NamesNone names item)) := by
    rw [List.perm_ext_iff_of_nodup once named]
    intro item
    rw [List.mem_filterMap, List.mem_filter, Bool.not_eq_true', decide_eq_false_iff_not]
    constructor
    · rintro ⟨i, _, here⟩
      obtain ⟨member, spoken, _⟩ := (said_eq_some_iff distinct).1 here
      exact ⟨member, spoken⟩
    · rintro ⟨member, spoken⟩
      have listed : item.name ∈ names := by
        by_contra absent
        exact spoken (.inr absent)
      exact ⟨_, List.mem_range.2 (List.idxOf_lt_length_of_mem listed),
        (said_eq_some_iff distinct).2 ⟨member, spoken, rfl⟩⟩
  exact ((used.append_right _).trans List.perm_append_comm).trans (List.filter_append_perm _ _)

/-- A record field by field. Each seeded parameter is merged with the parameter of its name in the
comment, if it is the first one of that name, and stays as it is otherwise. The other parameters of
the comment follow, and each of them is used once. Results are merged like parameters, a name given
by the comment goes before that of the seed, and the rest is the comment's. -/
theorem merge_field_by_field (doc : Doc) (seed : Seed) (distinct : DistinctNames doc.params) :
    let names := seed.params.map Param.name
    (doc.merge seed).params =
      seed.params.mapIdx (fun i p => (said doc.params names i).elim p p.merge) ++
        doc.params.filter (fun item => NamesNone names item) ∧
    ((List.range seed.params.length).filterMap (said doc.params names) ++
      doc.params.filter fun item => NamesNone names item).Perm doc.params ∧
    (doc.merge seed).returns = Option.merge Param.merge seed.returns doc.returns ∧
    (doc.merge seed).name = doc.name.getD (seed.name.getD "") ∧
    (doc.merge seed).kind = doc.kind ∧ (doc.merge seed).label = doc.label ∧
    (doc.merge seed).desc = doc.desc ∧ (doc.merge seed).examples = doc.examples := by
  intro names
  refine ⟨mergeParams_eq _ _ distinct, ?_, ?_, ?_, rfl, rfl, rfl, rfl⟩
  · have places := said_append_kept_perm distinct names
    rwa [List.length_map] at places
  · show mergeResult seed.returns doc.returns = _
    cases seed.returns <;> cases doc.returns <;> rfl
  · show (doc.name.or seed.name).getD "" = _
    cases doc.name <;> rfl

/-- Two seeded parameters share a name, and one on each side has none. -/
theorem shared_name_merged_once :
    let a : Param := { name := "a", types := ["string"], desc := some "first" }
    let c : Param := { name := "c", desc := some "third" }
    let doc : Doc := { params := [c, { desc := some "unnamed" }, a], returns := some {} }
    let seed : Seed := {
      name := some "f"
      params := [{ types := ["any"] }, { name := "a", types := ["number"] }, { name := "a" }] }
    DistinctNames doc.params ∧
    (doc.merge seed).params = [{ types := ["any"] },
      { name := "a", types := ["number"], desc := some "first" }, { name := "a" },
      c, { desc := some "unnamed" }] ∧
    ((List.range 3).filterMap (said doc.params ["", "a", "a"]) ++
      doc.params.filter fun item => NamesNone ["", "a", "a"] item).Perm doc.params ∧
    (doc.merge seed).name = "f" ∧ (doc.merge seed).returns = some {} := by
  intro a c doc seed
  have distinct : DistinctNames doc.params := by simp [DistinctNames, doc, a, c]
  obtain ⟨params, places, returns, name, _⟩ := merge_field_by_field doc seed distinct
  refine ⟨distinct, ?_, places, ?_, ?_⟩
  · rw [params]
    decide
  · rw [name]
    rfl
  · rw [returns]
    rfl

end Doc

end Commentary
