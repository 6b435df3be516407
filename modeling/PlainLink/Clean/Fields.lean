/-
# Field lists

A query is a list of fields `name=value` between ampersands.  After the rules have
deleted fields, the list is put in order: what is no field goes, and on request empty
fields and repeated names.

The list is gone through once, from the left.  A segment that does not stay claims no
name: an empty field that goes does not keep a later field of its name from staying.
What stays is put together again between single ampersands, character by character as it
stood.
-/
import PlainLink.Text.Basic

namespace PlainLink.Clean

/-- The name and the value of a field; `none` for a segment without `=`. -/
def field? (segment : Text) : Option (Text × Text) :=
  Text.splitFirst? '=' segment

/-- The segments that are kept, given the names kept before them. -/
def keepFields (stripEmpty stripDuplicates : Bool) : (seen : List Text) → List Text → List Text
  | _, [] => []
  | seen, segment :: rest =>
    match field? segment with
    | none => keepFields stripEmpty stripDuplicates seen rest
    | some (name, value) =>
      if (stripEmpty && value.isEmpty) || (stripDuplicates && seen.contains name) then
        keepFields stripEmpty stripDuplicates seen rest
      else segment :: keepFields stripEmpty stripDuplicates (name :: seen) rest

theorem keepFields_sublist (stripEmpty stripDuplicates : Bool) (seen segments : List Text) :
    (keepFields stripEmpty stripDuplicates seen segments).Sublist segments := by
  induction segments generalizing seen with
  | nil => exact .slnil
  | cons segment rest ih =>
    unfold keepFields
    split
    · exact (ih _).cons _
    · split
      · exact (ih _).cons _
      · exact (ih _).cons_cons _

/-- A query in order: only its fields, in their order and spelling. -/
def filterQuery (query : Text) (stripEmpty stripDuplicates : Bool) : Text :=
  Text.join ['&'] (keepFields stripEmpty stripDuplicates [] (query.splitOn '&'))

theorem filterQuery_sublist (query : Text) (stripEmpty stripDuplicates : Bool) :
    (filterQuery query stripEmpty stripDuplicates).Sublist query := by
  have h := Text.join_sublist ['&'] (keepFields_sublist stripEmpty stripDuplicates []
    (query.splitOn '&'))
  rwa [Text.join_splitOn] at h

end PlainLink.Clean
