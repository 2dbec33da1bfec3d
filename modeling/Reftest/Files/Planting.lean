import Reftest.Files.Access

namespace Reftest.FileTree

def descend (tree : FileTree) (here : Location) : List Octets → FileTree × Location
  | [] => (tree, here)
  | name :: rest =>
    let place := here ++ [name]
    let clear := (tree.prune place).set place .directory
    if name = Path.dotDot then tree.descend here.dropLast rest
    else match tree.lookup? place with
      | some .directory => tree.descend place rest
      | some (.link _) =>
        match tree.locate here name with
        | .ok target => tree.descend target rest
        | .error _ => clear.descend place rest
      | _ => clear.descend place rest

def makeWay (tree : FileTree) (here : Location) (names : List Octets) : FileTree × Location :=
  let (tree, directory) := tree.descend here names.dropLast
  (tree, directory ++ [names.getLastD []])

end Reftest.FileTree
