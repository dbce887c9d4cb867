import Commentary.Locale.Codec
import Mathlib.Data.List.Basic

/-! Layers of words, seen word by word. Laying one set of words over another and putting words into
a locale are both decided for each word alone, so it is enough to follow one word through the
layers: the last layer that sets it decides. -/
namespace Commentary

open LocaleOverrides

def LocaleOverrides.word (o : LocaleOverrides) : Word → Option String
  | .params => o.params
  | .returns => o.returns
  | .examples => o.examples
  | .optional => o.optional
  | .defaultAs => o.defaultAs

def Locale.word (l : Locale) : Word → String
  | .params => l.params
  | .returns => l.returns
  | .examples => l.examples
  | .optional => l.optional
  | .defaultAs => l.defaultAs

theorem LocaleOverrides.ext_word {a b : LocaleOverrides} (same : ∀ w, a.word w = b.word w) :
    a = b := by
  cases a
  cases b
  rw [mk.injEq]
  exact ⟨same .params, same .returns, same .examples, same .optional, same .defaultAs⟩

theorem Locale.ext_word {a b : Locale} (same : ∀ w, a.word w = b.word w) : a = b := by
  cases a
  cases b
  rw [mk.injEq]
  exact ⟨same .params, same .returns, same .examples, same .optional, same .defaultAs⟩

@[simp] theorem Locale.word_override (base : Locale) (o : LocaleOverrides) (w : Word) :
    (base.override o).word w = (o.word w).getD (base.word w) := by
  cases w <;> rfl

namespace LocaleOverrides

variable {list : List LocaleOverrides} {w : Word} {text : String}

@[simp] theorem word_empty (w : Word) : ({} : LocaleOverrides).word w = none := by
  cases w <;> rfl

@[simp] theorem word_overlay (base top : LocaleOverrides) (w : Word) :
    (base.overlay top).word w = (top.word w).or (base.word w) := by
  cases w <;> rfl

theorem overlay_assoc (a b c : LocaleOverrides) :
    (a.overlay b).overlay c = a.overlay (b.overlay c) := by
  apply ext_word
  intro w
  simp [Option.or_assoc]

theorem overlay_empty (o : LocaleOverrides) : o.overlay {} = o := by
  apply ext_word
  simp

theorem empty_overlay (o : LocaleOverrides) : overlay {} o = o := by
  apply ext_word
  simp

/-- Some layer sets the word to this text, and no layer above it sets the word. -/
def LastSets (list : List LocaleOverrides) (w : Word) (text : String) : Prop :=
  ∃ below layer above, list = below ++ layer :: above ∧ layer.word w = some text ∧
    ∀ o ∈ above, o.word w = none

def Unset (list : List LocaleOverrides) (w : Word) : Prop :=
  ∀ o ∈ list, o.word w = none

theorem lastSets_cons {o : LocaleOverrides} :
    LastSets (o :: list) w text ↔
      LastSets list w text ∨ Unset list w ∧ o.word w = some text := by
  constructor
  · rintro ⟨below, layer, above, whole, sets, silent⟩
    cases below with
    | nil =>
      obtain ⟨rfl, rfl⟩ := List.cons.inj whole
      exact .inr ⟨silent, sets⟩
    | cons first more =>
      exact .inl ⟨more, layer, above, (List.cons.inj whole).2, sets, silent⟩
  · rintro (⟨below, layer, above, rfl, sets, silent⟩ | ⟨unset, sets⟩)
    · exact ⟨o :: below, layer, above, rfl, sets, silent⟩
    · exact ⟨[], o, list, rfl, sets, unset⟩

theorem override_overlay (base : Locale) (a b : LocaleOverrides) :
    base.override (a.overlay b) = (base.override a).override b := by
  apply Locale.ext_word
  intro w
  cases set : b.word w <;> simp [set]

theorem override_foldl (base : Locale) (start : LocaleOverrides) (list : List LocaleOverrides) :
    base.override (list.foldl overlay start) =
      list.foldl Locale.override (base.override start) := by
  induction list generalizing start with
  | nil => rfl
  | cons o rest ih => rw [List.foldl_cons, List.foldl_cons, ih, override_overlay]

theorem override_layers (base : Locale) (list : List LocaleOverrides) :
    base.override (layers list) = list.foldl Locale.override base := by
  have unchanged : base.override {} = base := rfl
  rw [layers, override_foldl, unchanged]

/- The induction is on the layers from the bottom up. A layer that sets the word hands it to the
layers above as their base. -/
theorem word_foldl_override (base : Locale) (list : List LocaleOverrides) :
    (list.foldl Locale.override base).word w = text ↔
      LastSets list w text ∨ Unset list w ∧ base.word w = text := by
  induction list generalizing base with
  | nil => simp [LastSets, Unset]
  | cons o rest ih =>
    have unset : Unset (o :: rest) w ↔ o.word w = none ∧ Unset rest w := List.forall_mem_cons
    rw [List.foldl_cons, ih, lastSets_cons, unset, Locale.word_override]
    cases o.word w <;> simp

end LocaleOverrides

/-- For any number of layers, each word of a locale is the one of the last layer that sets it, and
its own if no layer does. It makes no difference whether the layers are laid over each other first
or put into the locale one by one, nor in which groups they are laid over each other, and a layer
that sets nothing changes nothing. -/
theorem Locale.last_layer_decides_word (base : Locale) (list : List LocaleOverrides) :
    (∀ w text, (base.override (layers list)).word w = text ↔
      LastSets list w text ∨ Unset list w ∧ base.word w = text) ∧
    base.override (layers list) = list.foldl Locale.override base ∧
    (∀ a b c : LocaleOverrides, (a.overlay b).overlay c = a.overlay (b.overlay c)) ∧
    ∀ o : LocaleOverrides, overlay {} o = o ∧ o.overlay {} = o := by
  refine ⟨fun w text => ?_, override_layers base list, overlay_assoc,
    fun o => ⟨empty_overlay o, overlay_empty o⟩⟩
  rw [override_layers]
  exact word_foldl_override base list

end Commentary
