/-! The words a page uses between the documented names. -/
namespace Commentary

structure Locale where
  params : String := "Params"
  returns : String := "Returns"
  examples : String := "Examples"
  optional : String := "optional"
  defaultAs : String := "Default:"
deriving Repr, DecidableEq

/-- Words to use instead of others. -/
structure LocaleOverrides where
  params : Option String := none
  returns : Option String := none
  examples : Option String := none
  optional : Option String := none
  defaultAs : Option String := none
deriving Repr, DecidableEq

namespace LocaleOverrides

/-- One layer of words on top of another. -/
def overlay (base top : LocaleOverrides) : LocaleOverrides where
  params := top.params.or base.params
  returns := top.returns.or base.returns
  examples := top.examples.or base.examples
  optional := top.optional.or base.optional
  defaultAs := top.defaultAs.or base.defaultAs

def layers (list : List LocaleOverrides) : LocaleOverrides :=
  list.foldl overlay {}

end LocaleOverrides

def Locale.override (base : Locale) (o : LocaleOverrides) : Locale where
  params := o.params.getD base.params
  returns := o.returns.getD base.returns
  examples := o.examples.getD base.examples
  optional := o.optional.getD base.optional
  defaultAs := o.defaultAs.getD base.defaultAs

end Commentary
