/-!
# Facets

A search term speaks of one facet of a document. Four facets are *fields*: a search may name several
values of each, and may exclude values. The other four are *slots*: each is filled at most once, and
nothing can be excluded there.
-/

namespace FacetSearch

/-- The facets that a search may name any number of values of. -/
inductive Field where
  | journal
  | tag
  | title
  | text
deriving DecidableEq, Repr

/-- The facets that a search fills at most once. -/
inductive Slot where
  | before
  | date
  | node
  | heading
deriving DecidableEq, Repr

inductive Facet where
  | field (field : Field)
  | slot (slot : Slot)
deriving DecidableEq, Repr

namespace Facet

def all : List Facet :=
  [ .field .journal, .field .tag, .field .title, .field .text,
    .slot .before, .slot .date, .slot .node, .slot .heading ]

def label : Facet → String
  | .field .journal => "in"
  | .field .tag => "tag"
  | .field .title => "title"
  | .field .text => "text"
  | .slot .before => "before"
  | .slot .date => "date"
  | .slot .node => "filter"
  | .slot .heading => "focus"

/-- The facet with this label, whatever the case of its ASCII letters. -/
def ofLabel? (name : List Char) : Option Facet :=
  all.find? fun facet => facet.label.toList = name.map Char.toLower

/-- A facet that holds at most one term. -/
def isSlot : Facet → Bool
  | .field _ => false
  | .slot _ => true

end Facet

end FacetSearch
