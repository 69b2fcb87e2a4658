import BackOffice.Ident
import BackOffice.SortedSet

/-!
# Catalogue scopes

The catalogue has three kinds of entities: products, collections and categories. A discount's scope
is a set of keys for each kind. A scope changes by adding or removing a list of keys for each kind,
and every change comes with its delta: the keys that really came or went, in order.
-/

namespace BackOffice

/-- The kinds of entities in the catalogue. -/
inductive CatalogueKind where
  | product
  | collection
  | category
deriving DecidableEq, Repr

/-- The kinds in the order in which they are gone through. -/
def CatalogueKind.all : List CatalogueKind := [.product, .collection, .category]

/-- The name of one entity of a kind. -/
def CatalogueKind.singular : CatalogueKind → String
  | .product => "product"
  | .collection => "collection"
  | .category => "category"

/-- The name of several entities of a kind. -/
def CatalogueKind.plural : CatalogueKind → String
  | .product => "products"
  | .collection => "collections"
  | .category => "categories"

/-- Something for each kind of catalogue entity. -/
structure PerKind (α : Type) where
  products : α
  collections : α
  categories : α
deriving DecidableEq

namespace PerKind

variable {α β γ : Type}

/-- What belongs to one kind. -/
def get (p : PerKind α) : CatalogueKind → α
  | .product => p.products
  | .collection => p.collections
  | .category => p.categories

/-- The same function for each kind. -/
def ofFn (f : CatalogueKind → α) : PerKind α := ⟨f .product, f .collection, f .category⟩

/-- Applies a function in each kind. -/
def map (f : α → β) (p : PerKind α) : PerKind β := ofFn fun k => f (p.get k)

/-- Joins two in each kind. -/
def zipWith (f : α → β → γ) (p : PerKind α) (q : PerKind β) : PerKind γ :=
  ofFn fun k => f (p.get k) (q.get k)

/-- What belongs to the kinds, in order. -/
def toList (p : PerKind α) : List α := CatalogueKind.all.map p.get

@[simp] theorem get_ofFn (f : CatalogueKind → α) (k : CatalogueKind) : (ofFn f).get k = f k := by
  cases k <;> rfl

@[ext] theorem ext_get {p q : PerKind α} (h : ∀ k, p.get k = q.get k) : p = q := by
  cases p
  cases q
  simpa using ⟨h .product, h .collection, h .category⟩

end PerKind

instance : Trans (α := CatalogueId) (· < ·) (· < ·) (· < ·) := ⟨Int32.lt_trans⟩

/-- Keys of each kind, in any order and possibly repeated. -/
abbrev CatalogueLists := PerKind (List CatalogueId)

namespace CatalogueLists

def empty : CatalogueLists := ⟨[], [], []⟩

/-- Whether there is no key of any kind. -/
def isEmpty (l : CatalogueLists) : Bool := l.toList.all List.isEmpty

def size (l : CatalogueLists) : Nat := l.toList.flatten.length

end CatalogueLists

/-- The catalogue entities a discount applies to. -/
abbrev CatalogueScope := PerKind (SortedSet CatalogueId)

/-- The direction of a change of scope. -/
inductive ScopeOp where
  | add
  | remove
deriving DecidableEq, Repr

def ScopeOp.name : ScopeOp → String
  | .add => "add"
  | .remove => "remove"

/-- The direction of exactly this name. -/
def ScopeOp.ofName? (s : String) : Option ScopeOp :=
  [ScopeOp.add, .remove].find? fun op => op.name = s

namespace CatalogueScope

def empty : CatalogueScope := ⟨.empty, .empty, .empty⟩

/-- The scope of the keys in the lists. -/
def ofLists (l : CatalogueLists) : CatalogueScope := l.map SortedSet.ofList

/-- The keys of a scope, in order. -/
def toLists (s : CatalogueScope) : CatalogueLists := s.map (·.items)

/-- Whether no entity of any kind is in scope. -/
def isEmpty (s : CatalogueScope) : Bool := s.toList.all SortedSet.isEmpty

/-- Adds the keys of the lists; the delta lists those that are new. -/
def add (s : CatalogueScope) (l : CatalogueLists) : CatalogueScope × CatalogueLists :=
  let changed := s.zipWith SortedSet.add l
  (changed.map Prod.fst, changed.map Prod.snd)

/-- Removes the keys of the lists; the delta lists those that were there. -/
def remove (s : CatalogueScope) (l : CatalogueLists) : CatalogueScope × CatalogueLists :=
  let changed := s.zipWith SortedSet.remove l
  (changed.map Prod.fst, changed.map Prod.snd)

/-- Changes a scope in either direction. -/
def apply (s : CatalogueScope) : ScopeOp → CatalogueLists → CatalogueScope × CatalogueLists
  | .add, l => s.add l
  | .remove, l => s.remove l

end CatalogueScope

end BackOffice
