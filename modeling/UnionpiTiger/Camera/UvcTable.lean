import UnionpiTiger.Camera.Uvc

set_option autoImplicit false

namespace UnionpiTiger.Camera

open Lib

theorem getUsbValue_absent {key line : Text} (labelled : '=' ∈ key) (plain : '=' ∉ line) :
    v4l2GetUsbValue key line = none := by
  induction line with
  | nil => rfl
  | cons c rest ih =>
    rw [v4l2GetUsbValue, if_neg]
    · exact ih fun mem => plain (List.mem_cons_of_mem c mem)
    · intro starts
      exact plain ((List.isPrefixOf_iff_prefix.mp starts).subset labelled)

theorem getUsbValue_isSome_append {key line : Text} (before : Text)
    (found : (v4l2GetUsbValue key line).isSome = true) :
    (v4l2GetUsbValue key (before ++ line)).isSome = true := by
  induction before with
  | nil => exact found
  | cons c rest ih =>
    rw [List.cons_append, v4l2GetUsbValue]
    split_ifs
    · rfl
    · exact ih

theorem Uevent.parts_plain (event : Uevent) :
    '=' ∉ event.action ∧ '=' ∉ event.devpath ∧ '=' ∉ event.major ∧ '=' ∉ event.minor ∧
      '=' ∉ event.node ∧ '=' ∉ event.seqnum := by
  have plain := event.plain
  simp only [List.mem_append, not_or] at plain
  tauto

theorem key_prefix_iff {key label body : Text} (keyPlain : '=' ∉ key) (labelPlain : '=' ∉ label) :
    key ++ ['='] <+: label ++ '=' :: body ↔ key = label := by
  induction key generalizing label with
  | nil =>
    cases label with
    | nil => simp
    | cons c rest =>
      simp only [List.nil_append, List.cons_append, List.cons_prefix_cons, List.nil_prefix,
        and_true]
      exact iff_of_false (fun same => labelPlain (same ▸ List.mem_cons_self)) (by simp)
  | cons a key ih =>
    cases label with
    | nil =>
      simp only [List.nil_append, List.cons_append, List.cons_prefix_cons]
      exact iff_of_false (fun both => keyPlain (by simp [both.1])) (by simp)
    | cons c rest =>
      simp only [List.cons_append, List.cons_prefix_cons, List.cons.injEq]
      rw [ih (fun mem => keyPlain (List.mem_cons_of_mem a mem))
        (fun mem => labelPlain (List.mem_cons_of_mem c mem))]

theorem getUsbValue_label {key label body : Text} (named : key ≠ []) (keyPlain : '=' ∉ key)
    (labelPlain : '=' ∉ label) (bodyPlain : '=' ∉ body) :
    v4l2GetUsbValue (key ++ ['=']) (label ++ '=' :: body) =
      if key <:+ label then some body else none := by
  have labelled : '=' ∈ key ++ ['='] := by simp
  induction label with
  | nil =>
    have apart : ¬ key ++ ['='] <+: '=' :: body :=
      fun starts => named ((key_prefix_iff keyPlain labelPlain).mp starts)
    rw [List.nil_append, v4l2GetUsbValue, if_neg (mt List.isPrefixOf_iff_prefix.mp apart),
      getUsbValue_absent labelled bodyPlain, if_neg (mt List.suffix_nil.mp named)]
  | cons c rest ih =>
    have starts : (key ++ ['=']).isPrefixOf (c :: rest ++ '=' :: body) = true ↔ key = c :: rest :=
      List.isPrefixOf_iff_prefix.trans (key_prefix_iff keyPlain labelPlain)
    rw [List.cons_append] at starts ⊢
    rw [v4l2GetUsbValue]
    by_cases same : key = c :: rest
    · rw [if_pos (starts.mpr same), if_pos (same ▸ List.suffix_rfl), same, ← List.cons_append]
      simp
    · rw [if_neg (mt starts.mp same), ih fun mem => labelPlain (List.mem_cons_of_mem c mem)]
      simp [List.suffix_cons_iff, same]

theorem usbField_label {field key label body : Text} (named : key ≠ []) (keyPlain : '=' ∉ key)
    (labelPlain : '=' ∉ label) (bodyPlain : '=' ∉ body) :
    usbField field (key ++ ['=']) (usbLabelled label body) =
      if field = [] ∧ key <:+ label then body else field := by
  rw [usbField, usbLabelled, getUsbValue_label named keyPlain labelPlain bodyPlain]
  by_cases empty : field = []
  · rw [if_pos empty, empty]
    by_cases suffix : key <:+ label
    · rw [if_pos suffix, if_pos ⟨rfl, suffix⟩]
      rfl
    · rw [if_neg suffix, if_neg fun both => suffix both.2]
      rfl
  · rw [if_neg empty, if_neg fun both => empty both.1]

structure LabelSets (label : Text) (action subsystem devnode : Bool) : Prop where
  plain : '=' ∉ label
  action : decide ("ACTION".toList <:+ label) = action
  subsystem : decide ("SUBSYSTEM".toList <:+ label) = subsystem
  devnode : decide ("DEVNAME".toList <:+ label) = devnode

theorem usbLine_label (usb : UsbString) {label body : Text} {action subsystem devnode : Bool}
    (sets : LabelSets label action subsystem devnode) (bodyPlain : '=' ∉ body) :
    usbLine usb (usbLabelled label body) =
      { action := if usb.action = [] ∧ action = true then body else usb.action
        subsystem := if usb.subsystem = [] ∧ subsystem = true then body else usb.subsystem
        devnode := if usb.devnode = [] ∧ devnode = true then body else usb.devnode } := by
  have field : ∀ key field : Text, key ≠ [] → '=' ∉ key →
      usbField field (key ++ ['=']) (usbLabelled label body) =
        if field = [] ∧ decide (key <:+ label) = true then body else field := by
    intro key field named keyPlain
    rw [usbField_label named keyPlain sets.plain bodyPlain]
    simp only [decide_eq_true_iff]
  rw [usbLine, ← sets.action, ← sets.subsystem, ← sets.devnode]
  congr 1
  · exact field "ACTION".toList usb.action (by decide) (by decide)
  · exact field "SUBSYSTEM".toList usb.subsystem (by decide) (by decide)
  · exact field "DEVNAME".toList usb.devnode (by decide) (by decide)

theorem usbLine_plain (usb : UsbString) {line : Text} (plain : '=' ∉ line) :
    usbLine usb line = usb := by
  have field : ∀ key field : Text, '=' ∈ key → usbField field key line = field := by
    intro key field labelled
    rw [usbField, getUsbValue_absent labelled plain]
    split_ifs with empty
    · exact empty.symm
    · rfl
  rw [usbLine, field _ _ (by decide), field _ _ (by decide), field _ _ (by decide)]

theorem getUsbString_cons (usb : UsbString) {label body : Text} {action subsystem devnode : Bool}
    (rest : List Text) (sets : LabelSets label action subsystem devnode) (bodyPlain : '=' ∉ body) :
    v4l2GetUsbString usb (usbLabelled label body :: rest) =
      v4l2GetUsbString
        { action := if usb.action = [] ∧ action = true then body else usb.action
          subsystem := if usb.subsystem = [] ∧ subsystem = true then body else usb.subsystem
          devnode := if usb.devnode = [] ∧ devnode = true then body else usb.devnode } rest := by
  rw [v4l2GetUsbString, if_neg (by simp [usbLabelled]), usbLine_label usb sets bodyPlain]

theorem labelSets_action : LabelSets "ACTION".toList true false false := by
  constructor <;> decide

theorem labelSets_subsystem : LabelSets "SUBSYSTEM".toList false true false := by
  constructor <;> decide

theorem labelSets_devname : LabelSets "DEVNAME".toList false false true := by
  constructor <;> decide

theorem labelSets_others :
    ∀ label ∈ ["DEVPATH".toList, "MAJOR".toList, "MINOR".toList, "SEQNUM".toList],
      LabelSets label false false false := by
  simp only [List.forall_mem_cons]
  refine ⟨?_, ?_, ?_, ?_, by simp⟩ <;> constructor <;> decide

theorem getUsbString_lines (event : Uevent) :
    v4l2GetUsbString {} event.lines =
      { action := event.action, subsystem := video4linux, devnode := event.node } := by
  obtain ⟨action, devpath, major, minor, node, seqnum⟩ := event.parts_plain
  have header : '=' ∉ event.action ++ '@' :: event.devpath := by
    simp [action, devpath]
  rw [Uevent.lines, v4l2GetUsbString, if_neg (by simp), usbLine_plain _ header,
    getUsbString_cons _ _ labelSets_action action,
    getUsbString_cons _ _ (labelSets_others _ (by simp)) devpath,
    getUsbString_cons _ _ labelSets_subsystem (by decide),
    getUsbString_cons _ _ (labelSets_others _ (by simp)) major,
    getUsbString_cons _ _ (labelSets_others _ (by simp)) minor,
    getUsbString_cons _ _ labelSets_devname node,
    getUsbString_cons _ _ (labelSets_others _ (by simp)) seqnum]
  simp [v4l2GetUsbString]

-- How V4L2UvcMatchDev ends its search for a name: at one that is too long for devName, with all of
-- them taken, or at a fresh one.
inductive NameFound where
  | long
  | taken
  | fresh (devName : Text)
deriving DecidableEq, Repr

def NameFound.name : NameFound → Option Text
  | .fresh devName => some devName
  | _ => none

def numberedName (deviceMatch : StdMap Text Text) (devName : Text) : List Nat → NameFound
  | [] => .taken
  | i :: rest =>
    match sprintfName (devName ++ Nat.toDigits 10 i) with
    | none => .long
    | some devName =>
      if deviceMatch.find? devName = none then .fresh devName
      else numberedName deviceMatch devName rest

def nameFor (deviceMatch : StdMap Text Text) (name : Text) : NameFound :=
  match sprintfName name with
  | none => .long
  | some devName =>
    if deviceMatch.find? devName = none then .fresh devName
    else numberedName deviceMatch devName (List.range' 1 (maxUvcNode - 1))

def nodePath (node : Text) : Text := devDirectory ++ node

def entriesOf (deviceMatch : StdMap Text Text) (node : Text) : Nat :=
  deviceMatch.entries.countP fun entry => entry.2 = nodePath node

def TableOfPresent (tracked : UvcRun) : Prop :=
  ∀ node, entriesOf tracked.uvc.deviceMatch node = if tracked.present node then 1 else 0

-- No event gives absPath to free, and the events that put an entry into the table are the
-- enumerations and adds of absent nodes.
def UvcRun.Fits (tracked : UvcRun) : UvcEvent → Prop
  | .enumerated node driver searched =>
    (searched = true → nameFor tracked.uvc.deviceMatch driver = .long) ∧
      (nameFor tracked.uvc.deviceMatch driver).name.isSome = !tracked.present node
  | .uevent event =>
    event.action = "remove".toList ∨
      event.answers.resolves = false ∧
        (event.action = "add".toList → tracked.present event.node = true)

def uvcFits (tracked : Result UvcRun) (event : UvcEvent) : Prop :=
  ∀ t ∈ tracked.toOption, t.Fits event

def TableKept (tracked : Result UvcRun) : Prop := ∃ t, tracked = .ok t ∧ TableOfPresent t

-- What V4L2UvcMatchDev does to the table when a device comes: nothing without a free name.
def Placed (before after : StdMap Text Text) (name : Option Text) (path : Text) : Prop :=
  match name with
  | none => after = before
  | some devName => devName.length < nameSize ∧
      after.entries.Perm ((devName, path) :: before.entries)

inductive MatchesDev (uvc : Uvc) (path : Text) (searched : Bool) : NameFound → Result Uvc → Prop where
  | long : MatchesDev uvc path searched .long (.ok uvc)
  | taken (devName : Text) :
    MatchesDev uvc path searched .taken (uvc.tell uvc.deviceMatch devName searched true)
  | fresh (devName : Text) (deviceMatch : StdMap Text Text)
      (placed : Placed uvc.deviceMatch deviceMatch (some devName) path) :
    MatchesDev uvc path searched (.fresh devName) (uvc.tell deviceMatch devName searched true)

theorem sprintfName_eq_some {text devName : Text} (fits : sprintfName text = some devName) :
    devName = text ∧ devName.length < nameSize := by
  unfold sprintfName at fits
  split_ifs at fits with short
  cases fits
  exact ⟨rfl, short⟩

theorem sprintfName_short {text : Text} (short : text.length < nameSize) :
    sprintfName text = some text := if_pos short

theorem insertNumbered_matches (uvc : Uvc) (devName path : Text) (searched : Bool)
    (numbers : List Nat) :
    MatchesDev uvc path searched (numberedName uvc.deviceMatch devName numbers)
      (uvc.insertNumbered devName path searched numbers) := by
  induction numbers generalizing devName with
  | nil => exact .taken devName
  | cons i rest ih =>
    rw [Uvc.insertNumbered, numberedName]
    cases fits : sprintfName (devName ++ Nat.toDigits 10 i) with
    | none => exact .long
    | some longer =>
      dsimp only
      by_cases absent : uvc.deviceMatch.find? longer = none
      · obtain ⟨inserted, perm⟩ := StdMap.insert_fresh path absent
        rw [if_pos absent, inserted, if_pos rfl]
        exact .fresh longer _ ⟨(sprintfName_eq_some fits).2, perm⟩
      · rw [if_neg absent, StdMap.insert_present absent, if_neg Bool.false_ne_true]
        exact ih longer

theorem matchDev_matches (uvc : Uvc) (name path : Text) (searched : Bool) :
    MatchesDev uvc path searched (nameFor uvc.deviceMatch name)
      (uvc.v4l2UvcMatchDev name path searched true) := by
  rw [Uvc.v4l2UvcMatchDev, nameFor]
  cases fits : sprintfName name with
  | none => exact .long
  | some devName =>
    dsimp only
    rw [if_pos rfl]
    by_cases absent : uvc.deviceMatch.find? devName = none
    · obtain ⟨inserted, perm⟩ := StdMap.insert_fresh path absent
      rw [if_pos absent, inserted, if_pos rfl]
      exact .fresh devName _ ⟨(sprintfName_eq_some fits).2, perm⟩
    · rw [if_neg absent, StdMap.insert_present absent, if_neg Bool.false_ne_true]
      exact insertNumbered_matches uvc devName path searched _

section MatchesDev

variable {uvc : Uvc} {path : Text} {searched : Bool} {found : NameFound} {result : Result Uvc}

theorem MatchesDev.aborts (matched : MatchesDev uvc path true found result)
    (named : found ≠ .long) : result = .error .aborts := by
  cases matched with
  | long => exact absurd rfl named
  | taken devName => rfl
  | fresh devName deviceMatch placed => rfl

theorem MatchesDev.placed (matched : MatchesDev uvc path searched found result)
    (unfreed : searched = true → found = .long) :
    ∃ next, result = .ok next ∧ Placed uvc.deviceMatch next.deviceMatch found.name path := by
  cases searched with
  | true =>
    obtain rfl := unfreed rfl
    cases matched
    exact ⟨uvc, rfl, rfl⟩
  | false =>
    cases matched with
    | long => exact ⟨uvc, rfl, rfl⟩
    | taken devName => exact ⟨_, rfl, rfl⟩
    | fresh devName deviceMatch placed => exact ⟨_, rfl, placed⟩

end MatchesDev

theorem nodePath_injective {node other : Text} (same : nodePath node = nodePath other) :
    node = other := List.append_cancel_left same

theorem placed_entriesOf {before after : StdMap Text Text} {name : Option Text} {node : Text}
    (placed : Placed before after name (nodePath node)) (other : Text) :
    entriesOf after other =
      entriesOf before other + if other = node ∧ name.isSome = true then 1 else 0 := by
  cases name with
  | none =>
    change after = before at placed
    simp [placed]
  | some devName =>
    rw [entriesOf, placed.2.countP_eq, List.countP_cons]
    congr 1
    by_cases same : other = node
    · simp [same]
    · have apart : nodePath node ≠ nodePath other := fun eq => same (nodePath_injective eq).symm
      simp [same, apart]

def NamesShort (deviceMatch : StdMap Text Text) : Prop :=
  ∀ entry ∈ deviceMatch.entries, entry.1.length < nameSize

theorem placed_namesShort {before after : StdMap Text Text} {name : Option Text} {path : Text}
    (placed : Placed before after name path) (short : NamesShort before) : NamesShort after := by
  cases name with
  | none =>
    change after = before at placed
    rwa [placed]
  | some devName =>
    intro entry mem
    rw [placed.2.mem_iff, List.mem_cons] at mem
    rcases mem with rfl | there
    · exact placed.1
    · exact short entry there

theorem loopUvcDevice_lines (uvc : Uvc) (event : Uevent) :
    uvc.loopUvcDevice event.lines (fun _ => event.answers) =
      if event.action = "remove".toList then
        match uvc.deviceMatch.entries.find? (fun itr => itr.2 = nodePath event.node) with
        | none => .ok uvc
        | some itr =>
          uvc.v4l2UvcMatchDev itr.1 (nodePath event.node) event.answers.searched false
      else
        (v4l2UvcGetCap event.answers).bind fun
          | none => .ok uvc
          | some driver =>
            uvc.v4l2UvcMatchDev driver (nodePath event.node) event.answers.searched true := by
  have header : (v4l2GetUsbValue video4linux (event.lines.headD [])).isNone = false := by
    have found := getUsbValue_isSome_append (event.action ++ ['@']) event.subsystem
    rw [List.append_assoc] at found
    rw [← Bool.not_eq_true, Option.isNone_iff_eq_none, ← ne_eq, Option.ne_none_iff_isSome]
    exact found
  unfold Uvc.loopUvcDevice
  rw [header, getUsbString_lines]
  rfl

-- realpath gives V4L2UvcGetCap its own array, so where the node is found the process is stopped at
-- free, and where it is not there is nothing to add.
theorem loopUvcDevice_other (uvc : Uvc) (event : Uevent) (stays : event.action ≠ "remove".toList) :
    uvc.loopUvcDevice event.lines (fun _ => event.answers) =
      if event.answers.resolves = true then .error .aborts else .ok uvc := by
  rw [loopUvcDevice_lines, if_neg stays, v4l2UvcGetCap, realpath]
  by_cases resolves : event.answers.resolves = true
  · rw [if_pos resolves, if_pos resolves]
    rfl
  · rw [if_neg resolves, if_neg resolves]
    rfl

theorem loopUvcDevice_remove (uvc : Uvc) (event : Uevent) (removes : event.action = "remove".toList)
    (short : NamesShort uvc.deviceMatch) :
    ∃ next, uvc.loopUvcDevice event.lines (fun _ => event.answers) = .ok next ∧
      ((entriesOf uvc.deviceMatch event.node = 0 ∧ next = uvc) ∨
        ∃ entry, entry.2 = nodePath event.node ∧
          uvc.deviceMatch.entries.Perm (entry :: next.deviceMatch.entries)) := by
  rw [loopUvcDevice_lines, if_pos removes]
  cases found : uvc.deviceMatch.entries.find? (fun itr => itr.2 = nodePath event.node) with
  | none =>
    refine ⟨uvc, rfl, .inl ⟨?_, rfl⟩⟩
    rw [entriesOf, List.countP_eq_zero]
    intro entry mem
    exact List.find?_eq_none.mp found entry mem
  | some itr =>
    have mem := List.mem_of_find?_eq_some found
    have path : itr.2 = nodePath event.node := by simpa using List.find?_some found
    dsimp only
    rw [Uvc.v4l2UvcMatchDev, sprintfName_short (short itr mem)]
    exact ⟨_, rfl, .inr ⟨itr, path, StdMap.erase_perm mem⟩⟩

structure Inv (tracked : UvcRun) : Prop where
  table : TableOfPresent tracked
  short : NamesShort tracked.uvc.deviceMatch

variable {tracked : UvcRun}

theorem table_placed_iff (table : TableOfPresent tracked) {uvc : Uvc} {name : Option Text}
    {node : Text} (placed : Placed tracked.uvc.deviceMatch uvc.deviceMatch name (nodePath node))
    (present : Bool) :
    TableOfPresent { uvc := uvc, present := Function.update tracked.present node present } ↔
      (if tracked.present node then 1 else 0) + (if name.isSome = true then 1 else 0) =
        if present then 1 else 0 := by
  constructor
  · intro next
    have here := next node
    rw [placed_entriesOf placed, table node] at here
    simpa using here
  · intro count other
    rw [placed_entriesOf placed, table other]
    by_cases same : other = node
    · subst same
      simpa using count
    · simp [same]

theorem one_entry_iff : ∀ puts present : Bool, puts = !present ↔
    (if present then 1 else 0) + (if puts = true then 1 else 0) = if true then 1 else 0 := by
  decide

theorem no_entry_iff : ∀ present after : Bool, after = present ↔
    (if present then 1 else 0) + (if false = true then 1 else 0) = if after then 1 else 0 := by
  decide

theorem enumerated_exact (node driver : Text) (searched : Bool) (inv : Inv tracked) :
    tracked.Fits (.enumerated node driver searched) ↔
      ∃ next, tracked.act (.enumerated node driver searched) = .ok next ∧ TableOfPresent next := by
  have matched := matchDev_matches tracked.uvc driver (nodePath node) searched
  rw [UvcRun.Fits, UvcRun.act]
  by_cases unfreed : searched = true → nameFor tracked.uvc.deviceMatch driver = .long
  · obtain ⟨uvc, done, placed⟩ := matched.placed unfreed
    rw [show devDirectory ++ node = nodePath node from rfl, done, Result.map_ok, and_iff_right unfreed,
      one_entry_iff, ← table_placed_iff inv.table placed true]
    constructor
    · exact fun table => ⟨_, rfl, table⟩
    · rintro ⟨next, same, table⟩
      cases same
      exact table
  · refine iff_of_false (fun fits => unfreed fits.1) ?_
    obtain ⟨rfl, named⟩ := Classical.not_imp.mp unfreed
    rintro ⟨next, done, _⟩
    rw [show devDirectory ++ node = nodePath node from rfl, matched.aborts named] at done
    cases done

theorem table_removed (event : Uevent) (removes : event.action = "remove".toList)
    (inv : Inv tracked) :
    ∃ next, tracked.act (.uevent event) = .ok next ∧ TableOfPresent next := by
  have notAdd : event.action ≠ "add".toList := by
    rw [removes]
    decide
  have presence : event.presence tracked.present =
      Function.update tracked.present event.node false := by
    rw [Uevent.presence, if_neg notAdd, if_pos removes]
  obtain ⟨uvc, done, removed⟩ := loopUvcDevice_remove tracked.uvc event removes inv.short
  refine ⟨_, by rw [UvcRun.act, done, Result.map_ok], ?_⟩
  rw [presence]
  intro other
  change entriesOf uvc.deviceMatch other =
    if Function.update tracked.present event.node false other = true then 1 else 0
  rw [Function.update_apply]
  have before := inv.table other
  rcases removed with ⟨none, rfl⟩ | ⟨entry, path, perm⟩
  · by_cases here : other = event.node
    · rw [if_pos here, here]
      exact none
    · rw [if_neg here]
      exact before
  · rw [entriesOf, perm.countP_eq, List.countP_cons] at before
    rw [entriesOf]
    by_cases here : other = event.node
    · rw [if_pos here]
      have counts : decide (entry.2 = nodePath other) = true := by
        rw [here]
        exact decide_eq_true path
      rw [counts, if_pos rfl] at before
      split_ifs at before with present
      exact Nat.succ.inj before
    · rw [if_neg here]
      have apart : decide (entry.2 = nodePath other) = false := by
        rw [path]
        exact decide_eq_false fun eq => here (nodePath_injective eq).symm
      rw [apart, if_neg Bool.false_ne_true] at before
      exact before

theorem table_unchanged_iff (event : Uevent) (stays : event.action ≠ "remove".toList)
    (inv : Inv tracked) :
    TableOfPresent { uvc := tracked.uvc, present := event.presence tracked.present } ↔
      (event.action = "add".toList → tracked.present event.node = true) := by
  have same : Placed tracked.uvc.deviceMatch tracked.uvc.deviceMatch none (nodePath event.node) :=
    rfl
  rw [Uevent.presence]
  by_cases adds : event.action = "add".toList
  · rw [if_pos adds, table_placed_iff inv.table same true, Option.isSome_none, ← no_entry_iff]
    exact ⟨fun present _ => present.symm, fun present => (present adds).symm⟩
  · rw [if_neg adds, if_neg stays]
    exact iff_of_true inv.table fun add => absurd add adds

theorem uevent_exact (event : Uevent) (inv : Inv tracked) :
    tracked.Fits (.uevent event) ↔
      ∃ next, tracked.act (.uevent event) = .ok next ∧ TableOfPresent next := by
  by_cases removes : event.action = "remove".toList
  · exact iff_of_true (.inl removes) (table_removed event removes inv)
  · rw [UvcRun.Fits, or_iff_right removes, UvcRun.act, loopUvcDevice_other _ event removes]
    by_cases resolves : event.answers.resolves = true
    · refine iff_of_false ?_ ?_
      · rintro ⟨missing, _⟩
        rw [missing] at resolves
        cases resolves
      · rintro ⟨next, done, _⟩
        rw [if_pos resolves] at done
        cases done
    · rw [if_neg resolves, Result.map_ok, and_iff_right (Bool.eq_false_iff.mpr resolves),
        ← table_unchanged_iff event removes inv]
      constructor
      · exact fun table => ⟨_, rfl, table⟩
      · rintro ⟨next, same, table⟩
        cases same
        exact table

theorem fits_exact (event : UvcEvent) (inv : Inv tracked) :
    tracked.Fits event ↔ ∃ next, tracked.act event = .ok next ∧ TableOfPresent next := by
  cases event with
  | enumerated node driver searched => exact enumerated_exact node driver searched inv
  | uevent event => exact uevent_exact event inv

theorem Inv.namesShort_act {event : UvcEvent} {next : UvcRun} (inv : Inv tracked)
    (fits : tracked.Fits event) (done : tracked.act event = .ok next) :
    NamesShort next.uvc.deviceMatch := by
  cases event with
  | enumerated node driver searched =>
    obtain ⟨uvc, matched, placed⟩ :=
      (matchDev_matches tracked.uvc driver (nodePath node) searched).placed fits.1
    rw [UvcRun.act, show devDirectory ++ node = nodePath node from rfl, matched] at done
    cases done
    exact placed_namesShort placed inv.short
  | uevent event =>
    rw [UvcRun.act] at done
    obtain ⟨uvc, looped, rfl⟩ := Result.map_eq_ok.mp done
    by_cases removes : event.action = "remove".toList
    · obtain ⟨next, looped', removed⟩ := loopUvcDevice_remove tracked.uvc event removes inv.short
      rw [looped] at looped'
      cases looped'
      rcases removed with ⟨_, rfl⟩ | ⟨_, _, perm⟩
      · exact inv.short
      · intro entry mem
        exact inv.short entry (perm.mem_iff.mpr (List.mem_cons_of_mem _ mem))
    · rw [loopUvcDevice_other _ event removes] at looped
      split_ifs at looped
      cases looped
      exact inv.short

theorem Inv.start : Inv UvcRun.start := by
  constructor
  · intro node
    have apart : ¬ "INVALID".toList = nodePath node := by
      intro same
      have first := congrArg List.head? same
      exact absurd first (by simp [nodePath, devDirectory])
    change [_].countP _ = 0
    rw [List.countP_eq_zero]
    intro entry mem
    rw [List.mem_singleton.mp mem, decide_eq_true_iff]
    exact apart
  · intro entry mem
    rw [List.mem_singleton.mp mem]
    decide

theorem table_of_present_iff_fits (events : List UvcEvent) :
    (∀ first, first <+: events → TableKept (run UvcRun.step (.ok .start) first)) ↔
      Along UvcRun.step uvcFits (.ok .start) events := by
  symm
  refine along_iff_always UvcRun.step uvcFits (fun tracked => ∃ t, tracked = .ok t ∧ Inv t) TableKept
    ?_ ?_ ?_ _ ⟨_, rfl, Inv.start⟩ events
  · rintro _ ⟨t, rfl, inv⟩
    exact ⟨t, rfl, inv.table⟩
  · rintro _ event ⟨t, rfl, inv⟩ ok
    have fits := ok t rfl
    obtain ⟨next, done, table⟩ := (fits_exact event inv).mp fits
    exact ⟨next, done, table, inv.namesShort_act fits done⟩
  · rintro _ event ⟨t, rfl, inv⟩ kept found mem
    cases mem
    exact (fits_exact event inv).mpr kept

def video0 (action : Text) (action_ne : action ≠ []) (plain : '=' ∉ action) : Uevent where
  action := action
  devpath := "/devices/usb1/1-1/video4linux/video0".toList
  major := "81".toList
  minor := "0".toList
  node := "video0".toList
  seqnum := "1000".toList
  answers := ⟨true, true, some ⟨"uvcvideo".toList, true, true⟩, true⟩
  action_ne := action_ne
  node_ne := by decide
  plain := by
    simp only [List.mem_append, not_or]
    exact ⟨⟨⟨⟨⟨plain, by decide⟩, by decide⟩, by decide⟩, by decide⟩, by decide⟩
  subsystem := by decide

theorem table_not_of_present_after_add :
    run UvcRun.step (.ok .start) [.uevent (video0 "add".toList (by decide) (by decide))] =
      .error .aborts ∧
    ¬ ∀ events : List UvcEvent, TableKept (run UvcRun.step (.ok .start) events) := by
  have stops : run UvcRun.step (.ok .start)
      [.uevent (video0 "add".toList (by decide) (by decide))] = .error .aborts := by
    apply Result.eq_error_of_stop
    decide
  refine ⟨stops, fun always => ?_⟩
  obtain ⟨t, done, _⟩ := always [.uevent (video0 "add".toList (by decide) (by decide))]
  rw [stops] at done
  cases done

end UnionpiTiger.Camera
