import UnionpiTiger.Configs.Values
import UnionpiTiger.Lib.Stores

set_option autoImplicit false

namespace UnionpiTiger.Configs.Listing

open Lib

def configForR : Nat := 1

def configForW : Nat := 2

def configForT : Nat := 4

def listModeVal : Nat := 256

def listModeConfigs : Nat := 512

def listModeConfigsVal : Nat := listModeVal ||| listModeConfigs

def listModeNodeInfo : Nat := 1024

def listModePathPrefix : Nat := 4096

def listModePathFullprefix : Nat := 8192

def listModeSubNodes : Nat := 32768

def listModeNodeCmdvalAll : Nat :=
  configForR ||| configForW ||| listModePathPrefix ||| listModeConfigsVal ||| listModeSubNodes ||| listModeNodeInfo

def has (flags mask : Nat) : Bool := flags &&& mask ≠ 0

def pageSize : Nat := 4096

structure Getter where
  text : Option CString
  page : Bool
  short : ∀ text_ ∈ text, text_.text.length < pageSize

inductive Value where
  | number (config : Mconfig)
  | str (text : CString)
  | fn (get : Option Getter)
  | unknown

structure Config where
  itemName : CString
  value : Value

structure MconfigNode where
  path : CString
  name : CString
  rwFlags : Nat
  refCnt : Int
  depth : Int
  configs : Option (List Config)

inductive ConfigTree where
  | node (head : MconfigNode) (sons : List ConfigTree)

def Getter.get (getter : Getter) (mem : Str) (place : Nat) (size : Int) : Option (Str × Int) :=
  if size < pageSize then
    if getter.page then
      match getter.text with
      | none => some (mem, -1)
      | some text => (store mem place (text.text.take size.toNat)).map fun mem =>
          (mem, min text.text.length size)
    else some (mem, -12)
  else
    match getter.text with
    | none => some (mem, -1)
    | some text => (store mem place (text.text ++ [nul])).map fun mem => (mem, text.text.length)

def Value.printIn (value : Value) (mem : Str) (place : Nat) (size : Int) : Option (Str × Int) :=
  match value with
  | .number config => (snprintf mem place size config.text).map fun (mem, ret) => (mem, ret)
  | .str text => (snprintf mem place size text.text).map fun (mem, ret) => (mem, ret)
  | .fn none => some (mem, 0)
  | .fn (some getter) => getter.get mem place size
  | .unknown => some (mem, -4)

def Value.config2str (value : Value) (mem : Str) (place : Nat) (size : Int) : Option (Str × Int) :=
  if size < 1 then some (mem, 0)
  else do
    let (mem, ret) ← value.printIn mem place size
    if 0 < ret ∧ size ≤ ret then
      let mem ← store mem (place + (size.toNat - 1)) [nul]
      some (mem, size - 1)
    else some (mem, ret)

def prefixSize : Nat := maxPrefixName + maxItemName

def buildPrefix (node : MconfigNode) (above : Str) (mode : Nat) : Option Str :=
  let start :=
    if has mode listModePathFullprefix then node.path.text.take (prefixSize - 1)
    else if has mode listModePathPrefix then above.take (prefixSize - 1)
    else []
  if start = [] ∨ start.getLast? = some '.' then some start
  else if start.length + 1 < prefixSize then some (start ++ ['.'])
  else none

def sonsPrefix (node : MconfigNode) (prefixText : Str) (mode : Nat) : Option Str :=
  if has mode listModePathPrefix ∧ 0 < node.depth then
    let name := node.name.text.take (prefixSize - 1)
    if prefixText.length + name.length < prefixSize then some (prefixText ++ name) else none
  else some prefixText

def configText (node : MconfigNode) (prefixText : Str) (config : Config) : Str :=
  ' ' :: prefixText ++ node.name.text ++ '.' :: config.itemName.text ++
    if has node.rwFlags configForR then ['='] else []

def rwText (rwFlags : Nat) : Str :=
  match rwFlags % 4 with
  | 0 => ['N']
  | 1 => ['r']
  | 2 => ['w']
  | _ => ['r', 'w']

def infoText (node : MconfigNode) (prefixText : Str) : Str :=
  ['[', 'N', 'O', 'D', 'E', ']'] ++ prefixText ++ node.name.text ++ [':', '['] ++
    rwText node.rwFlags ++ '/' :: formatD node.refCnt ++
    '/' :: formatD (node.configs.getD []).length ++ '/' :: formatD node.depth ++ [']', '\n']

def valued (node : MconfigNode) (mode : Nat) : Bool :=
  has mode listModeVal && (has mode configForT || !has node.rwFlags configForT) &&
    has node.rwFlags configForR

def listValue (value : Value) (mem : Str) (buf pn : Nat) (size : Int) : Option (Str × Nat × Bool) := do
  let (mem, ret) ← value.config2str mem (buf + pn) (size - pn)
  if 0 < ret then
    if pn + ret < size then
      let mem ← strcat mem buf ['\n']
      some (mem, pn + (ret.toNat + 1), true)
    else some (mem, pn + ret.toNat, true)
  else if ret = 0 ∧ pn < size then
    let mem ← strcat mem buf ['\n']
    some (mem, pn, true)
  else some (mem, pn, false)

def listConfigs (node : MconfigNode) (prefixText : Str) (mode buf : Nat) (size : Int) :
    List Config → Str → Nat → Option (Str × Nat)
  | [], mem, pn => some (mem, pn)
  | config :: configs, mem, pn =>
    if 8 < size - pn then do
      let (mem, ret) ← snprintf mem (buf + pn) (size - pn) (configText node prefixText config)
      let pn := pn + ret
      if valued node mode then
        let (mem, pn, more) ← listValue config.value mem buf pn size
        if more then listConfigs node prefixText mode buf size configs mem pn else some (mem, pn)
      else
        let (mem, ret) ← snprintf mem (buf + pn) (size - pn) ['\n']
        listConfigs node prefixText mode buf size configs mem (pn + ret)
    else some (mem, pn)

def listNodeConfigsLocked (node : MconfigNode) (mem : Str) (buf : Nat) (size : Int)
    (prefixText : Str) (mode : Nat) :
    Option (Str × Nat) :=
  match node.configs with
  | none => some (mem, 0)
  | some configs => if size < 8 then some (mem, 0)
      else listConfigs node prefixText mode buf size configs mem 0

def listInfo (node : MconfigNode) (mem : Str) (buf : Nat) (size : Int) (prefixText : Str)
    (mode : Nat) : Option (Str × Nat) :=
  if has mode listModeNodeInfo then snprintf mem buf size (infoText node prefixText) else some (mem, 0)

def listHead (node : MconfigNode) (mem : Str) (buf : Nat) (size : Int) (prefixText : Str)
    (mode : Nat) : Option (Str × Nat) := do
  let (mem, pn) ← listInfo node mem buf size prefixText mode
  if has mode listModeConfigsVal then
    let (mem, ret) ← listNodeConfigsLocked node mem (buf + pn) (size - pn) prefixText mode
    some (mem, pn + ret)
  else some (mem, pn)

mutual

def listNodesIn (mode : Nat) : ConfigTree → Str → Nat → Int → Str → Option (Str × Nat)
  | .node head sons, mem, buf, size, above =>
    if size ≤ 0 ∨ ¬has head.rwFlags mode then some (mem, 0)
    else do
      let prefixText ← buildPrefix head above mode
      let (mem, pn) ← listHead head mem buf size prefixText mode
      if has mode listModeSubNodes ∧ sons ≠ [] then
        let prefixText ← sonsPrefix head prefixText mode
        listSons mode sons mem buf size prefixText pn
      else some (mem, pn)

def listSons (mode : Nat) : List ConfigTree → Str → Nat → Int → Str → Nat → Option (Str × Nat)
  | [], mem, _, _, _, pn => some (mem, pn)
  | son :: sons, mem, buf, size, prefixText, pn => do
    let (mem, ret) ← listNodesIn mode son mem (buf + pn) (size - pn) prefixText
    listSons mode sons mem buf size prefixText (pn + ret)

end

def listNodes (tree : ConfigTree) (mem : Str) (mode : Nat) : Option (Str × Nat) :=
  listNodesIn mode tree mem 0 mem.length []

def Contained (tree : ConfigTree) (mode size : Nat) : Prop :=
  ∀ mem : Str, mem.length = size → ∃ stored returned,
    listNodes tree mem mode = some (stored, returned) ∧ returned ≤ size

end UnionpiTiger.Configs.Listing
