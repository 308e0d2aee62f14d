import AuthServer.Keys.Store
import AuthServer.Log

/-!
Key folders: every regular file whose name ends in ".pem" is a key, and the rest of its name is the
key's id. Everything else in the folder is passed over.
-/

namespace AuthServer

inductive FolderNode where
  | file (contents : List UInt8)
  | unreadable (error : IoError)
  | folder
  | link (target : List UInt8)
deriving DecidableEq, Repr

/-- A tree of files, each under its path from the root, whose parts are separated by slashes. -/
structure FileTree where
  nodes : List (List UInt8 × FolderNode)

namespace FileTree

def slash : UInt8 := 0x2F

def parent (path : List UInt8) : List UInt8 :=
  (path.reverse.dropWhile (· != slash)).reverse

/-- What stands at a path and where it really is, links followed, `fuel` of them at most. -/
def resolve (tree : FileTree) : (fuel : Nat) → List UInt8 → Option (List UInt8 × FolderNode)
  | 0, _ => none
  | fuel + 1, path =>
      match tree.nodes.lookup path with
      | some (.link target) => tree.resolve fuel (parent path ++ target)
      | some node => some (path, node)
      | none => none

/-- As many links as the system is willing to follow. -/
def linkLimit : Nat := 40

/-- The names in a folder with what they stand for, or why the folder cannot be listed. The root has
the empty path. -/
def list (tree : FileTree) (folder : List UInt8) :
    Except IoError (List (List UInt8 × FolderNode)) :=
  let inside (start : List UInt8) : List (List UInt8 × FolderNode) :=
    tree.nodes.filterMap fun (path, _) =>
      if parent path = start ∧ start.length < path.length then
        (tree.resolve linkLimit path).map fun (_, node) => (path.drop start.length, node)
      else none
  if folder = [] then .ok (inside [])
  else
    match tree.resolve linkLimit folder with
    | some (path, .folder) => .ok (inside (path ++ [slash]))
    | some _ => .error (.system 20)
    | none => .error (.system 2)

end FileTree

namespace KeyFolder

/-- The id of a key file: its name without the extension, if the extension is exactly "pem", the
name does not start with the only dot, and the id is text. -/
def kidOf (name : List UInt8) : Option String :=
  let dot : UInt8 := 0x2E
  let extension := (name.reverse.takeWhile (· != dot)).reverse
  let stem := name.take (name.length - extension.length - 1)
  if extension = [0x70, 0x65, 0x6D] ∧ stem ≠ [] then Utf8.decode stem else none

/-- The ids and contents of the key files among some entries of a folder. The others leave events
for debugging, which are left out here. -/
def pems (path : String) :
    List (List UInt8 × FolderNode) → Except KeyError (List (String × List UInt8))
  | [] => .ok []
  | (name, node) :: rest =>
      match node, kidOf name with
      | .file contents, some kid => (pems path rest).map ((kid, contents) :: ·)
      | .unreadable error, some kid => .error (.unreadableFile s!"{path}/{kid}.pem" error)
      | _, _ => pems path rest

def load (tree : FileTree) (folder : List UInt8) (path activeKid : String) :
    Except KeyError (KeyStore × List LogEvent) :=
  match tree.list folder with
  | .error error => .error (.unreadableFolder path error)
  | .ok entries =>
      match pems path entries with
      | .error error => .error error
      | .ok pems =>
          match KeyStore.ofPems pems activeKid with
          | .error error => .error error
          | .ok store =>
              .ok (store, [.plain .info .keys "Signing keys loaded"
                [("dir", .plain path), ("kids", .plain (Text.quoteAll store.kids)),
                  ("active_kid", .plain store.activeKid)]])

end KeyFolder

end AuthServer
