import Mathlib.Data.BitVec
import Mathlib.Logic.Function.Basic

set_option autoImplicit false

namespace UnionpiTiger.Configs

abbrev Str : Type := List Char

def maxItemName : Nat := 128

def maxPrefixName : Nat := 128

def maxDepth : Nat := 8

structure Node where
  name : Str := []
  active : Int := 1
  depth : Nat := 0
  path : Str := []
  parentNode : Option Nat := none
  sonNodeList : List Nat := []
  configs : Option (List Str) := none
  forR : Bool := true
  forW : Bool := true
  refCnt : BitVec 32 := 0

-- The nodes by address. No way up is longer than `height`, which is no part of the code.
structure Tree where
  node : Nat → Node
  height : Nat

def rootNode : Nat := 0

-- configs_parser_first_node: the first component of a path, its length, and whether it is the last.
def firstNode (path : Str) : Option (Str × Nat × Bool) :=
  let dot := path.findIdx fun c => c = '.'
  let (size, isEnd) := if dot < path.length then (dot, false) else (path.findIdx fun c => c = '=', true)
  let size := if size ≥ maxItemName - 1 then maxItemName - 1 else size
  let name := (path.take size).takeWhile fun c => c ≠ ' ' ∧ c ≠ '\r' ∧ c ≠ '\n'
  if size = 0 ∨ name = [] then none else some (name, size, isEnd)

def componentsOf : Nat → Str → List Str × Bool
  | 0, _ => ([], false)
  | fuel + 1, path =>
    match firstNode path with
    | none => ([], false)
    | some (name, _, true) => ([name], true)
    | some (name, size, false) =>
      let (names, read) := componentsOf fuel (path.drop (size + 1))
      (name :: names, read)

def components (path : Str) : List Str × Bool := componentsOf (path.length + 1) path

def valstr (path : Str) : Option Str :=
  if '=' ∈ path then some ((path.dropWhile fun c => c ≠ '=').drop 1) else none

namespace Tree

def put (t : Tree) (x : Nat) (node : Node) : Tree := { t with node := Function.update t.node x node }

def addRef (t : Tree) (x : Nat) (cnt : BitVec 32) : Tree :=
  t.put x { t.node x with refCnt := (t.node x).refCnt + cnt }

def putParents (stop : Option Nat) : Nat → Tree → Option Nat → Tree
  | 0, t, _ => t
  | _ + 1, t, none => t
  | fuel + 1, t, some x =>
    if stop = some x then t else putParents stop fuel (t.addRef x (-1)) (t.node x).parentNode

def putNode (t : Tree) (node : Option Nat) (delParentRef : Bool) (stop : Option Nat) : Tree :=
  match node with
  | none => t
  | some x =>
    if delParentRef then putParents stop t.height (t.addRef x (-1)) (t.node x).parentNode
    else t.addRef x (-1)

def look (t : Tree) (parent : Nat) (name : Str) : Option Nat :=
  ((t.node parent).sonNodeList.find? fun x => (t.node x).name = name).filter fun x =>
    (t.node x).active > 0

def refused (t : Tree) (x : Nat) : Bool := ((t.node x).refCnt + 1).toInt < 0

def getNodeWithName (t : Tree) (parent : Nat) (name : Str) : Tree × Option Nat :=
  match t.look parent name with
  | none => (t, none)
  | some x => (t.addRef x 1, if t.refused x then none else some x)

def descend : Tree → Nat → List Str → Tree × Nat × Bool
  | t, x, [] => (t, x, true)
  | t, x, name :: names =>
    match t.getNodeWithName x name with
    | (t, none) => (t, x, false)
    | (t, some son) => descend t son names

def isRootPath (t : Tree) (names : List Str) : Bool := names = [(t.node rootNode).name]

def getNodePathEndNode (t : Tree) (path : Str) : Tree × Option Nat :=
  let (names, read) := components path
  if read && t.isRootPath names then (t, some rootNode)
  else
    match t.descend rootNode names with
    | (t, x, true) => (t, if read then some x else none)
    | (t, _, false) => (t, none)

-- The tests of configs_register_node before the look for a node of the same name.
def barred (t : Tree) (p new : Nat) : Bool :=
  new = p || (t.node p).depth ≥ maxDepth ||
    (t.node p).path.length + (t.node p).name.length ≥ maxPrefixName - 2

def attach (t : Tree) (p new : Nat) : Tree :=
  let depth := (t.node p).depth + 1
  let start := if (t.node p).path = [] then (t.node new).path else (t.node p).path ++ ['.']
  let path := if depth ≥ 2 then start ++ (t.node p).name else (t.node new).path
  let t := t.put new { t.node new with
    depth, path, parentNode := some p, active := 1
    forR := (t.node p).forR && (t.node new).forR, forW := (t.node p).forW && (t.node new).forW }
  { t.put p { t.node p with sonNodeList := (t.node p).sonNodeList ++ [new] } with height :=
    2 * t.height + 1 }

def registerNode (t : Tree) (parent : Option Nat) (new : Nat) : Tree :=
  let p := parent.getD rootNode
  if t.barred p new then t
  else
    match t.getNodeWithName p (t.node new).name with
    | (t, some _) => t
    | (t, none) => t.attach p new

def registerPathNode (t : Tree) (path : Option Str) (new : Nat) : Tree :=
  match path.filter fun path => path ≠ [] with
  | none => t.registerNode none new
  | some path =>
    match t.getNodePathEndNode path with
    | (t, none) => t
    | (t, some parent) => (t.registerNode (some parent) new).putNode (some parent) true none

def registerConfigs (t : Tree) (x : Nat) (configs : List Str) : Tree :=
  if (t.node x).configs = none then t.put x { t.node x with configs := some configs } else t

def registerPathConfigs (t : Tree) (path : Option Str) (configs : List Str) : Tree :=
  match path.filter fun path => path ≠ [] with
  | none => t
  | some path =>
    match t.getNodePathEndNode path with
    | (t, none) => t
    | (t, some parent) => (t.registerConfigs parent configs).putNode (some parent) true none

def listPathNodes (t : Tree) (path : Option Str) : Tree :=
  match path with
  | none => t
  | some path =>
    match t.getNodePathEndNode path with
    | (t, none) => t
    | (t, some x) => t.putNode (some x) true none

def permits (t : Tree) (x : Nat) (set : Bool) : Bool := if set then (t.node x).forW else (t.node x).forR

def hasConfig (t : Tree) (x : Nat) (name : Str) : Bool := name ∈ (t.node x).configs.getD []

-- configs_get_node_path_config: the node that is held, if the item is found.
def getNodePathConfig (t : Tree) (start : Option Nat) (path : Option Str) (set : Bool) :
    Tree × Option Nat :=
  match path with
  | none => (t, none)
  | some path =>
    let root := start.getD rootNode
    let (names, read) := components path
    match t.descend root (if read then names.dropLast else names) with
    | (t, x, false) => (if x ≠ root then t.putNode (some x) true (some root) else t, none)
    | (t, x, true) =>
      if ¬ read then (t, none)
      else if t.permits x set && t.hasConfig x (names.getLastD []) then (t.addRef x 1, some x)
      else (t.putNode (some x) true (some root), none)

-- What configs_setget_node_path_value, configs_set_node_path_str and configs_get_node_path_str
-- have in common. The value itself is left out.
def useConfig (t : Tree) (topnode : Option Nat) (path : Option Str) (set : Bool) : Tree :=
  match t.getNodePathConfig topnode path set with
  | (t, none) => t
  | (t, some x) => (t.putNode (some x) false topnode).putNode (some x) true topnode

def setgetNodePathValue (t : Tree) (topnode : Option Nat) (path : Option Str) (set : Bool) : Tree :=
  t.useConfig topnode path set

def given (str : Option Str) : Bool := str.any fun str => str ≠ []

def setNodePathStr (t : Tree) (topnode : Option Nat) (path val : Option Str) : Tree :=
  if given path && given val then t.useConfig topnode path true else t

def getNodePathStr (t : Tree) (topnode : Option Nat) (path : Option Str) : Tree :=
  if given path then t.useConfig topnode path false else t

def setPrefixPathStr (t : Tree) (pref path val : Option Str) : Tree :=
  match pref.filter fun pref => pref ≠ [] with
  | none => t.setNodePathStr none path val
  | some pref =>
    match t.getNodePathEndNode pref with
    | (t, none) => t
    | (t, some topnode) => (t.setNodePathStr (some topnode) path val).putNode (some topnode) true none

end Tree

inductive PathOp where
  | setgetValue (topnode : Option Nat) (path : Option Str) (set : Bool)
  | setStr (topnode : Option Nat) (path val : Option Str)
  | getStr (topnode : Option Nat) (path : Option Str)
  | setValonpath (topnode : Option Nat) (path : Str)
  | setPrefixStr (pref path val : Option Str)
  | setPrefixValonpath (pref : Option Str) (path : Str)
  | listNodes (path : Option Str)
  | registerNode (path : Option Str) (new : Nat)
  | registerConfigs (path : Option Str) (configs : List Str)

namespace Tree

def step (t : Tree) : PathOp → Tree
  | .setgetValue topnode path set => t.setgetNodePathValue topnode path set
  | .setStr topnode path val => t.setNodePathStr topnode path val
  | .getStr topnode path => t.getNodePathStr topnode path
  | .setValonpath topnode path => t.setNodePathStr topnode (some path) (valstr path)
  | .setPrefixStr pref path val => t.setPrefixPathStr pref path val
  | .setPrefixValonpath pref path => t.setPrefixPathStr pref (some path) (valstr path)
  | .listNodes path => t.listPathNodes path
  | .registerNode path new => t.registerPathNode path new
  | .registerConfigs path configs => t.registerPathConfigs path configs

end Tree

end UnionpiTiger.Configs
