/-
  TestScaffold.Path — paths as bytes, and the components they are read as.

  A path is the bytes a user wrote.  Its meaning is the list of its components;
  its spelling matters too, because filters search it and answers repeat it.

    * `components` — root, leading `.`, `..` and names; empty and inner `.` segments do not count;
    * `parent?`, `fileName?`, `stem`, `hasExtension` — by spelling, as written;
    * `join` — an absolute right side replaces the left;
    * `clean` — the lexical normal form.
-/
import TestScaffold.Text.Blank
import TestScaffold.Text.ByteString

namespace TestScaffold.Path

/-! ## §1. Components -/

/-- One step of a path. -/
inductive Component where
  /-- The root directory. -/
  | root
  /-- A leading `.` of a relative path. -/
  | current
  /-- `..` -/
  | parent
  /-- An ordinary name. -/
  | name (bytes : List UInt8)
  deriving DecidableEq, Repr, Inhabited

/-- Whether a segment between slashes is a component of its own. -/
def counts (segment : List UInt8) : Bool :=
  !(segment.isEmpty || segment == [dot])

/-- The component that a counting segment stands for. -/
def Component.ofSegment (segment : List UInt8) : Component :=
  if segment == [dot, dot] then .parent else .name segment

/-- A path in two parts: what stands before its body (`/`, a leading `.`, or nothing) and its body. -/
structure Parts where
  /-- `/`, `.` or nothing. -/
  head : List UInt8
  /-- What stands after the head. -/
  body : List UInt8

/-- Splits a path into head and body. -/
def parts : List UInt8 → Parts
  | [] => ⟨[], []⟩
  | b :: bs =>
    if b = slash then ⟨[slash], bs⟩
    else if b = dot ∧ bs.head?.getD slash = slash then ⟨[dot], bs⟩
    else ⟨[], b :: bs⟩

/-- The component of a head. -/
def headComponents (head : List UInt8) : List Component :=
  if head = [slash] then [.root]
  else if head = [dot] then [.current]
  else []

/-- The components of a path. -/
def componentsOf (bs : List UInt8) : List Component :=
  let p := parts bs
  headComponents p.head
    ++ ((Text.splitSep slash p.body).filter counts).map Component.ofSegment

/-- `componentsOf` on byte strings. -/
def components (path : ByteString) : List Component :=
  componentsOf path.toList

/-- Whether the path starts at the root. -/
def isAbsolute (path : ByteString) : Bool :=
  path.toList.head? == some slash

/-! ## §2. Parent, file name, stem and extension -/

/-- The segments up to and including the last one that counts. -/
def upToLastCounting : List (List UInt8) → List (List UInt8)
  | [] => []
  | s :: ss =>
    match upToLastCounting ss with
    | [] => if counts s then [s] else []
    | rest => s :: rest

/-- Segments joined again by slashes. -/
def joinSegments (segments : List (List UInt8)) : List UInt8 :=
  List.intercalate [slash] segments

/-- The path without its last component, as spelled; `none` for the root and the empty path. -/
def parentBytes? (bs : List UInt8) : Option (List UInt8) :=
  let p := parts bs
  match upToLastCounting (Text.splitSep slash p.body) with
  | [] => if p.head == [dot] then some [] else none
  | kept => some (p.head ++ joinSegments (upToLastCounting kept.dropLast))

/-- `parentBytes?` on byte strings. -/
def parent? (path : ByteString) : Option ByteString :=
  (parentBytes? path.toList).map ByteString.ofList

/-- A path and the paths above it, as spelled.  A parent is shorter than its child, so the fuel
    suffices. -/
def ancestorsFrom : (fuel : Nat) → List UInt8 → List ByteString
  | 0, bs => [.ofList bs]
  | fuel + 1, bs =>
    .ofList bs :: match parentBytes? bs with
      | some up => ancestorsFrom fuel up
      | none => []

/-- The path itself, its parent, and so on up. -/
def ancestors (path : ByteString) : List ByteString :=
  ancestorsFrom path.size path.toList

/-- The last component, if it is an ordinary name. -/
def fileNameBytes? (bs : List UInt8) : Option (List UInt8) :=
  match (componentsOf bs).getLast? with
  | some (.name n) => some n
  | _ => none

/-- `fileNameBytes?` on byte strings. -/
def fileName? (path : ByteString) : Option ByteString :=
  (fileNameBytes? path.toList).map ByteString.ofList

/-- A file name cut at its last dot; a dot in front does not cut. -/
def cutExtension (name : List UInt8) : List UInt8 × Option (List UInt8) :=
  let ext := (name.reverse.takeWhile (· != dot)).reverse
  let before := name.take (name.length - ext.length - 1)
  if ext.length == name.length || before.isEmpty then (name, none) else (before, some ext)

/-- The file name without its extension; empty if there is no file name. -/
def stemBytes (path : ByteString) : ByteString :=
  match fileNameBytes? path.toList with
  | some n => .ofList (cutExtension n).1
  | none => ""

/-- `stemBytes` read as a text. -/
def stem (path : ByteString) : String :=
  (stemBytes path).text

/-- What stands after the last dot of the file name. -/
def extension? (path : ByteString) : Option ByteString :=
  match fileNameBytes? path.toList with
  | some n => (cutExtension n).2.map ByteString.ofList
  | none => none

/-- Whether the path has exactly this extension. -/
def hasExtension (path : ByteString) (ext : String) : Bool :=
  extension? path == some (.ofText ext)

/-! ## §3. Joining -/

/-- The right path seen from the left one. -/
def joinBytes (left right : List UInt8) : List UInt8 :=
  if right.head? == some slash then right
  else if left.isEmpty || left.getLast? == some slash then left ++ right
  else left ++ slash :: right

/-- `joinBytes` on byte strings. -/
def join (left right : ByteString) : ByteString :=
  .ofList (joinBytes left.toList right.toList)

/-! ## §4. Lexical cleaning -/

/-- One step of cleaning; the components kept so far are listed last first. -/
def cleanStep (kept : List Component) : Component → List Component
  | .current => kept
  | .parent =>
    match kept with
    | .name _ :: rest => rest
    | .root :: _ => kept
    | _ => .parent :: kept
  | c => c :: kept

/-- The bytes of one component. -/
def Component.bytes : Component → List UInt8
  | .root => [slash]
  | .current => [dot]
  | .parent => [dot, dot]
  | .name n => n

/-- A list of components written as a path; the empty list is `.`. -/
def writeComponents : List Component → List UInt8
  | [] => [dot]
  | .root :: rest => slash :: joinSegments (rest.map Component.bytes)
  | cs => joinSegments (cs.map Component.bytes)

/-- The components of the lexical normal form. -/
def cleanComponents (cs : List Component) : List Component :=
  (cs.foldl cleanStep []).reverse

/-- The lexical normal form: no `.`, and `..` only as a leading run of a relative path. -/
def clean (path : ByteString) : ByteString :=
  .ofList (writeComponents (cleanComponents (components path)))

end TestScaffold.Path
