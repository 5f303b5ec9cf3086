import Countoff.Label

/-!
# Listings

A listing is an ordered list of integers, each with the text it was given. `Listing.ofNumbers`
gives every integer the text it is called by; a listing may hold any other text as well.
-/

namespace Countoff

/-- One line of a listing: an integer and its text. -/
structure Entry where
  number : Int
  label : String
  deriving DecidableEq

/-- Integers with their texts, in order. -/
abbrev Listing := List Entry

namespace Listing

/-- The listing that calls out each of `numbers`, in order. -/
def ofNumbers (numbers : List Int) : Listing :=
  numbers.map fun n => ⟨n, callOut n⟩

def labels (listing : Listing) : List String :=
  listing.map Entry.label

@[simp] theorem length_ofNumbers (numbers : List Int) :
    (ofNumbers numbers).length = numbers.length :=
  List.length_map ..

@[simp] theorem length_labels (listing : Listing) : listing.labels.length = listing.length :=
  List.length_map ..

theorem ofNumbers_append (xs ys : List Int) :
    ofNumbers (xs ++ ys) = ofNumbers xs ++ ofNumbers ys :=
  List.map_append

end Listing

end Countoff
