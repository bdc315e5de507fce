import Workbench.World.Files

/-!
# Changes of a file tree

What one file tree has that another has not: the files that are new or have another content, and
those that are gone.
-/

namespace Workbench

def Content.readable : Content → Content
  | .text s => .text s
  | .bytes b =>
    match Utf8.decode b with
    | .ok s => .text s
    | .error _ => .bytes b

namespace Files

def content? (t : Files) (p : Place) : Option Content :=
  match t.node? p with
  | some (.file c _) => some c.readable
  | _ => none

def changes (old new : Files) : List (Place × Option Content) :=
  let made := new.entries.filterMap fun (p, _) =>
    if (new.content? p).isSome && new.content? p != old.content? p then
      some (p, new.content? p) else none
  let gone := old.entries.filterMap fun (p, _) =>
    if (old.content? p).isSome && (new.content? p).isNone then some (p, none) else none
  made ++ gone

end Files

end Workbench
