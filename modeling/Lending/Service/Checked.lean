/-! # Checked requests

A part of a request that is read from several places is either read as a whole, or answered with
every place that does not fit.
-/

namespace Lending

inductive Place where
  | path (name : String)
  | query (name : String)
  | body
  | member (name : String)
deriving DecidableEq, Repr

def Place.text : Place → String
  | .path name => s!"path.{name}"
  | .query name => s!"query.{name}"
  | .body => "body"
  | .member name => s!"body.{name}"

inductive Checked (α : Type) where
  | fit (value : α)
  | misfit (places : List Place)
deriving DecidableEq, Repr

namespace Checked

def map (f : α → β) : Checked α → Checked β
  | fit a => fit (f a)
  | misfit places => misfit places

/-- Both parts are checked; their misfits are put together. -/
def apply : Checked (α → β) → Checked α → Checked β
  | fit f, x => x.map f
  | misfit places, fit _ => misfit places
  | misfit places, misfit more => misfit (places ++ more)

instance : Applicative Checked where
  pure := fit
  map := map
  seq f x := f.apply (x ())

def ofOption (place : Place) : Option α → Checked α
  | some a => fit a
  | none => misfit [place]

end Checked

end Lending
