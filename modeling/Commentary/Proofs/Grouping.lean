import Commentary.Proofs.Outline
import Mathlib.Data.List.Basic

/-! Several blocks about one parameter. They are folded into the first of them as they come; the
outcome is that of putting the blocks of each name together first. Names that differ never meet. -/
namespace Commentary.Comment

open Doc (fold stack)

/-- What blocks about the same thing say together. -/
def gathered (first : Param) (more : List Param) : Param where
  name := first.name
  types := (((first :: more).map Param.types).find? (!·.isEmpty)).getD []
  optional := (first :: more).any Param.optional
  default := (first :: more).findSome? Param.default
  desc := paragraphs ((first :: more).filterMap Param.desc)

def gathered? : List Param → Option Param
  | [] => none
  | first :: more => some (gathered first more)

def repeats (later first : Param) : Bool :=
  later.name ≠ "" && later.name = first.name

/-- The entry that a block gives its place to. -/
def entryOf? (blocks : List Param) (block : Param) : Option Param :=
  if block.name = "" then some block else gathered? (blocks.filter (·.name = block.name))

/-- An unnamed block is an entry of its own. Of the blocks of a name the first one keeps its place
and gathers the others. -/
def grouped (blocks : List Param) : List Param :=
  (blocks.eraseDupsBy repeats).filterMap (entryOf? blocks)

attribute [ext] Param

theorem find?_filled_append (lists : List (List String)) (last : List String) :
    ((lists ++ [last]).find? (!·.isEmpty)).getD [] =
      if ((lists.find? (!·.isEmpty)).getD []).isEmpty then last
      else (lists.find? (!·.isEmpty)).getD [] := by
  rw [List.find?_append]
  cases found : lists.find? (!·.isEmpty) with
  | none => cases last <;> rfl
  | some types =>
    have filled : types.isEmpty = false := by simpa using List.find?_some found
    simp [filled]

section Gathering

variable (first : Param) (more : List Param)

theorem gathered_nil : gathered first [] = first := by
  obtain ⟨name, types, optional, default, desc⟩ := first
  apply Param.ext
  · rfl
  · cases types <;> rfl
  · simp [gathered]
  · cases default <;> rfl
  · cases desc <;> rfl

/- Each field is collected from the left, so the last block can be added at the end. -/
theorem fold_gathered (item : Param) :
    fold (gathered first more) item = gathered first (more ++ [item]) := by
  apply Param.ext
  · rfl
  · show (if (gathered first more).types.isEmpty then item.types else (gathered first more).types) =
      (((first :: more ++ [item]).map Param.types).find? (!·.isEmpty)).getD []
    rw [List.map_append, List.map_singleton, find?_filled_append]
    rfl
  · show ((first :: more).any Param.optional || item.optional) =
      (first :: more ++ [item]).any Param.optional
    rw [List.any_append]
    simp
  · show ((first :: more).findSome? Param.default).or item.default =
      (first :: more ++ [item]).findSome? Param.default
    rw [List.findSome?_append]
    simp
  · show stack (paragraphs ((first :: more).filterMap Param.desc)) item.desc =
      paragraphs ((first :: more ++ [item]).filterMap Param.desc)
    rw [Doc.stack_paragraphs, List.filterMap_append]
    cases said : item.desc <;> simp [said]

theorem foldl_fold : more.foldl fold first = gathered first more := by
  have longer (before : List Param) :
      more.foldl fold (gathered first before) = gathered first (before ++ more) := by
    induction more generalizing before with
    | nil => simp
    | cons item rest ih =>
      rw [List.foldl_cons, fold_gathered, ih, List.append_assoc]
      rfl
  have all := longer []
  rwa [gathered_nil, List.nil_append] at all

end Gathering

theorem foldResults_eq_gathered (blocks : List Param) : foldResults blocks = gathered? blocks := by
  cases blocks with
  | nil => rfl
  | cons first more => exact congrArg some (foldl_fold first more)

theorem insertParam_cons (p : Param) (params : List Param) (item : Param) :
    insertParam (p :: params) item =
      if repeats item p then fold p item :: params else p :: insertParam params item := by
  have same : repeats item p = true ↔ p.name ≠ "" ∧ p.name = item.name := by
    simp only [repeats, Bool.and_eq_true, decide_eq_true_eq]
    grind
  unfold insertParam
  rw [Param.updateNamed]
  by_cases again : repeats item p = true
  · rw [if_pos again, if_pos (same.1 again)]
    rfl
  · rw [if_neg again, if_neg (mt same.2 again)]
    cases Param.updateNamed item.name (fold · item) params <;> rfl

/- The first entry takes the blocks that repeat its name, and leaves the others to the entries
behind it. -/
theorem foldl_insertParam_cons (items : List Param) (p : Param) (params : List Param) :
    items.foldl insertParam (p :: params) =
      (items.filter (repeats · p)).foldl fold p ::
        (items.filter (repeats · p = false)).foldl insertParam params := by
  induction items generalizing p params with
  | nil => rfl
  | cons item rest ih =>
    rw [List.foldl_cons, insertParam_cons]
    cases again : repeats item p with
    | true =>
      rw [if_pos rfl, ih, List.filter_cons_of_pos (by simpa using again),
        List.filter_cons_of_neg (by simp [again])]
      -- Folding keeps the name, so the later blocks are divided as before.
      rfl
    | false =>
      rw [if_neg (by simp), ih, List.filter_cons_of_neg (by simp [again]),
        List.filter_cons_of_pos (by simp [again])]
      rfl

theorem entryOf?_first {all rest : List Param} {first : Param}
    (own : first.name ≠ "" →
      all.filter (·.name = first.name) = (first :: rest).filter (·.name = first.name)) :
    entryOf? all first = some ((rest.filter (repeats · first)).foldl fold first) := by
  unfold entryOf?
  by_cases unnamed : first.name = ""
  · have alone : rest.filter (repeats · first) = [] := by
      simp [repeats, unnamed]
    rw [if_pos unnamed, alone]
    rfl
  · have named : rest.filter (repeats · first) = rest.filter (·.name = first.name) := by
      apply List.filter_congr
      intro item _
      simp only [repeats]
      grind
    rw [if_neg unnamed, own unnamed, List.filter_cons_of_pos (by simp), named, foldl_fold]
    rfl

theorem filterMap_entry (all blocks : List Param)
    (own : ∀ block ∈ blocks, block.name ≠ "" →
      all.filter (·.name = block.name) = blocks.filter (·.name = block.name)) :
    (blocks.eraseDupsBy repeats).filterMap (entryOf? all) = blocks.foldl insertParam [] := by
  induction size : blocks.length using Nat.strongRecOn generalizing blocks with
  | ind n ih =>
    cases blocks with
    | nil => rfl
    | cons first rest =>
      obtain ⟨here, later⟩ := List.forall_mem_cons.1 own
      have fewer : (rest.filter (repeats · first = false)).length < n := by
        have bound := List.length_filter_le (repeats · first = false) rest
        rw [List.length_cons] at size
        omega
      have others : ∀ block ∈ rest.filter (repeats · first = false), block.name ≠ "" →
          all.filter (·.name = block.name) =
            (rest.filter (repeats · first = false)).filter (·.name = block.name) := by
        intro block member named
        obtain ⟨listed, apart⟩ := List.mem_filter.1 member
        have other : first.name ≠ block.name := by
          intro same
          simp [repeats, named, same] at apart
        rw [later block listed named, List.filter_cons_of_neg (by simpa using other),
          List.filter_filter]
        apply List.filter_congr
        intro item _
        simp only [repeats]
        grind
      rw [List.eraseDupsBy_cons, List.filterMap_cons_some (entryOf?_first here),
        ih _ fewer _ others rfl, List.foldl_cons]
      exact (foldl_insertParam_cons rest first []).symm

theorem foldl_insertParam_eq_grouped (blocks : List Param) :
    blocks.foldl insertParam [] = grouped blocks :=
  (filterMap_entry blocks blocks fun _ _ _ => rfl).symm

section OneName

variable {name : String}

theorem filter_insertParam (params : List Param) (item : Param) :
    (insertParam params item).filter (·.name = name) =
      if item.name = name then insertParam (params.filter (·.name = name)) item
      else params.filter (·.name = name) := by
  induction params with
  | nil => by_cases same : item.name = name <;> simp [insertParam, Param.updateNamed, same]
  | cons p rest ih =>
    cases again : repeats item p with
    | true =>
      have kept : (fold p item).name = p.name := rfl
      have names : item.name = p.name := by
        simp only [repeats, Bool.and_eq_true, decide_eq_true_eq] at again
        exact again.2
      by_cases listed : p.name = name <;> simp [insertParam_cons, again, kept, names, listed]
    | false =>
      by_cases listed : p.name = name
      · by_cases same : item.name = name <;> simp [insertParam_cons, again, listed, ih, same]
      · simp [insertParam_cons, again, listed, ih]

theorem filter_foldl_insertParam (blocks params : List Param) :
    (blocks.foldl insertParam params).filter (·.name = name) =
      (blocks.filter (·.name = name)).foldl insertParam (params.filter (·.name = name)) := by
  induction blocks generalizing params with
  | nil => rfl
  | cons item rest ih =>
    rw [List.foldl_cons, ih, filter_insertParam]
    by_cases same : item.name = name
    · rw [if_pos same, List.filter_cons_of_pos (by simpa using same), List.foldl_cons]
    · rw [if_neg same, List.filter_cons_of_neg (by simpa using same)]

/- Blocks of one name make one entry. -/
theorem foldl_insertParam_of_name (named : name ≠ "") {blocks : List Param}
    (each : ∀ block ∈ blocks, block.name = name) :
    blocks.foldl insertParam [] = (gathered? blocks).toList := by
  cases blocks with
  | nil => rfl
  | cons first more =>
    obtain ⟨here, later⟩ := List.forall_mem_cons.1 each
    have again : ∀ block ∈ more, repeats block first = true := by
      intro block member
      simp [repeats, later block member, here, named]
    rw [List.foldl_cons]
    show more.foldl insertParam [first] = [gathered first more]
    rw [foldl_insertParam_cons, List.filter_eq_self.2 again, foldl_fold,
      List.filter_eq_nil_iff.2 fun block member => by simp [again block member]]
    rfl

end OneName

/-- Blocks about parameters are grouped by name, whatever stands between them: the entry of a name
is made of the blocks of that name alone. Blocks about the result make one entry by the same law. -/
theorem params_grouped_by_name (body : String) (doc : Doc) (read : Doc.ofBody body = .ok doc) :
    let sections := (Outline.ofLines (logicalLines body.toList)).sections
    let blocks := sections.filterMap Section.param?
    doc.params = grouped blocks ∧
    (∀ name, name ≠ "" → doc.params.filter (·.name = name) =
      (gathered? (blocks.filter (·.name = name))).toList) ∧
    doc.returns = gathered? (sections.filterMap Section.result?) := by
  intro sections blocks
  rw [Doc.ofBody_eq_read] at read
  obtain ⟨params, returns⟩ := Outline.folded_of_read read
  refine ⟨params.trans (foldl_insertParam_eq_grouped blocks), ?_,
    returns.trans (foldResults_eq_gathered _)⟩
  intro name named
  rw [params, filter_foldl_insertParam]
  exact foldl_insertParam_of_name named fun block member => by
    simpa using (List.mem_filter.1 member).2

/-- Two blocks about one parameter, with another one, one without a name and a result between. -/
theorem scattered_blocks_grouped :
    let body := " @param a one\n * @param b\n * @param - two\n * @returns \x7bT\x7d x\n" ++
      " * @arg \x7bS\x7d [a=2] three\n * @return y"
    let doc : Doc := {
      params := [
        { name := "a"
          types := ["S"]
          optional := true
          default := some "2"
          desc := some "one\nthree" },
        { name := "b" },
        { desc := some "two" }]
      returns := some { types := ["T"], desc := some "x\ny" } }
    let sections := (Outline.ofLines (logicalLines body.toList)).sections
    let blocks := sections.filterMap Section.param?
    Doc.ofBody body = .ok doc ∧ doc.params = grouped blocks ∧
      doc.params.filter (·.name = "a") = (gathered? (blocks.filter (·.name = "a"))).toList ∧
      doc.returns = gathered? (sections.filterMap Section.result?) := by
  intro body doc sections blocks
  have read : Doc.ofBody body = .ok doc := by decide +kernel
  obtain ⟨params, entry, returns⟩ := params_grouped_by_name body doc read
  exact ⟨read, params, entry "a" (by decide), returns⟩

end Commentary.Comment
