import CpuPinning.Toml.Scalar

/-!
# Tables

A text is a sequence of tables, each with a heading that tells where it belongs, and entries
whose keys may be paths.  The value of the text is put together by grouping the tables whose
headings begin with the same name.
-/

namespace CpuPinning.Toml

/-- What an entry holds: a value, or the entries that paths through its key have made. -/
inductive Item where
  | value (v : Value)
  | dotted (entries : List (String × Item))

/-- Adds an entry; a path may only go through keys that paths have made. -/
def addPath? (v : Value) : List String → List (String × Item) → Option (List (String × Item))
  | [], _ => none
  | [key], es => some (es ++ [(key, .value v)])
  | key :: path, es =>
      match es.lookup key with
      | some (.dotted inner) =>
          (addPath? v path inner).map fun inner => setMember key (.dotted inner) es
      | some (.value _) => none
      | none => (addPath? v path []).map fun inner => es ++ [(key, .dotted inner)]

mutual

/-- The value that an entry holds. -/
def Item.toValue : Item → Value
  | .value v => v
  | .dotted es => .obj (membersOf [] es)

/-- The members that entries make, behind those that are there; of a repeated key the last
value counts. -/
def membersOf (members : List (String × Value)) : List (String × Item) → List (String × Value)
  | [] => members
  | (key, item) :: es => membersOf (setMember key item.toValue members) es

end

/-- A table as written: where it belongs, whether it is an item of a list, and its entries. -/
structure Section where
  path : List String
  isItem : Bool
  entries : List (String × Item)

/-- The tables under a name, with the rest of their paths. -/
def under (key : String) (ss : List Section) : List Section :=
  ss.filterMap fun s =>
    match s.path with
    | k :: path => if k = key then some { s with path } else none
    | [] => none

/-- The tables of the items of a list: an item begins with a table that is one, and the
tables behind it belong to it.  What stands before the first item is put aside. -/
def itemGroups : List Section → List Section × List (Section × List Section)
  | [] => ([], [])
  | s :: ss =>
      let (before, groups) := itemGroups ss
      if s.path.isEmpty && s.isItem then ([], (s, before) :: groups) else (s :: before, groups)

/-- What is known of an object while its tables are gone through. -/
structure Assembly where
  members : List (String × Value)
  /-- The names whose tables have been put together. -/
  grouped : List String
  /-- Whether the table of the object itself has been seen. -/
  own : Bool

/-- Puts together the object that tables make, of which the paths have at most `depth`
names.  The table of an object may come behind those inside it, but only once, and it may
not be an item of a list. -/
def assemble? : Nat → Assembly → List Section → Option (List (String × Value))
  | depth, a, ss => do
      let a ← ss.foldlM (fun a s =>
        match s.path, depth with
        | [], _ =>
            if a.own || s.isItem then none
            else some { a with own := true, members := membersOf a.members s.entries }
        | _ :: _, 0 => none
        | key :: _, depth + 1 =>
            if a.grouped.contains key then some a
            else
              let group := under key ss
              let v? : Option Value :=
                match itemGroups group with
                | ([], items) =>
                    (items.mapM fun (item : Section × List Section) =>
                      (assemble? depth ⟨membersOf [] item.1.entries, [], true⟩ item.2).map
                        Value.obj).map Value.arr
                | _ => (assemble? depth ⟨[], [], false⟩ group).map Value.obj
              v?.map fun v =>
                { a with grouped := key :: a.grouped, members := setMember key v a.members }) a
      return a.members

/-- The value of a text that has these tables. -/
def ofSections? (ss : List Section) : Option Value :=
  let depth := (ss.map (·.path.length)).foldl max 0
  (assemble? depth ⟨[], [], false⟩ ss).map .obj

end CpuPinning.Toml
