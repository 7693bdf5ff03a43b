import KeypadCalculator.Calculator.Panel
import Mathlib.Data.List.Basic

/-!
# The keyboard presses the buttons

Keyboard and keypad come to a key in two ways: one by what a character is, the other by the label of
a button. Both lead to the same command. A frame therefore does what the buttons do whose labels are
among its characters, pressed one after the other, and it makes no difference how the characters are
distributed over texts and frames. Once a key has opened an alert, nothing else in the frame counts.

* `Frame.characters`, `Frame.labels`: what was typed, and the buttons that stand for it.
* `Frame.IsCut`: a frame cut into several.
* `Command.ofTyped?_eq_some`: one key.
* `Calculator.foldl_pressLabel`, `Calculator.foldl_readFrame`: several keys and several frames, by
  induction on the characters and on the frames.
* `Calculator.typeKeys_eq_self`: keys under an alert.
* `Calculator.readFrame_eq_presses`: all of it.
-/

namespace KeypadCalculator

variable {scale : Scale} {calculator : Calculator}

/-! ## One key -/

/-- The characters that are the label of a button. -/
def keyCharacters : List Char :=
  "0123456789+-*/=".toList

/-- Every digit has a key. -/
theorem mem_keyCharacters_of_isDigit {c : Char} (h : c.isDigit = true) : c ∈ keyCharacters := by
  have hall : ∀ n < 58, 48 ≤ n → Char.ofNat n ∈ keyCharacters := by decide +kernel
  have hdigit : 48 ≤ c.toNat ∧ c.toNat ≤ 57 := Char.isDigit_iff_toNat.mp h
  rw [← Char.ofNat_toNat c]
  exact hall c.toNat (by omega) hdigit.1

/-- A character that is no label stands for no key. -/
theorem Command.ofTyped?_eq_none {c : Char} (h : c ∉ keyCharacters) : ofTyped? c = none := by
  have hdigit : c.isDigit ≠ true := fun hc => h (mem_keyCharacters_of_isDigit hc)
  have hoperator : ¬(c = '+' ∨ c = '-' ∨ c = '*' ∨ c = '/') := by
    rintro (rfl | rfl | rfl | rfl) <;> exact h (by decide +kernel)
  have hequals : c ≠ '=' := by
    rintro rfl
    exact h (by decide +kernel)
  rw [ofTyped?, if_neg hdigit, if_neg hoperator, if_neg hequals]

/-- A character that is a label stands for what the label says. -/
theorem Command.ofTyped?_eq_some {c : Char} (h : c ∈ keyCharacters) :
    ofTyped? c = some (ofLabel c.toString) := by
  have hall : (keyCharacters.all fun c => ofTyped? c == some (ofLabel c.toString)) = true := by
    decide +kernel
  exact beq_iff_eq.mp (List.all_eq_true.mp hall c h)

/-- A character that is a label is the label of a button. -/
theorem exists_button_of_mem_keyCharacters {c : Char} (h : c ∈ keyCharacters) :
    ∃ button : Button, button.label = c.toString := by
  have hall :
      (keyCharacters.all fun c => Button.rows.flatten.any (·.label = c.toString)) = true := by
    decide +kernel
  obtain ⟨button, -, hbutton⟩ := List.any_eq_true.mp (List.all_eq_true.mp hall c h)
  exact ⟨button, of_decide_eq_true hbutton⟩

/-- Every button is a key: none sets the number of decimals. -/
theorem Button.isKey_command (button : Button) : button.command.isKey = true := by
  cases button <;> rfl

/-- What a character stands for is what some button sends. -/
theorem Command.exists_button_of_ofTyped? {c : Char} {command : Command}
    (h : ofTyped? c = some command) : ∃ button : Button, button.command = command := by
  by_cases hc : c ∈ keyCharacters
  · obtain ⟨button, hbutton⟩ := exists_button_of_mem_keyCharacters hc
    refine ⟨button, ?_⟩
    rw [← ofLabel_label, hbutton]
    exact Option.some.inj ((ofTyped?_eq_some hc).symm.trans h)
  · rw [ofTyped?_eq_none hc] at h
    cases h

/-! ## What is typed in a frame -/

namespace Frame

/-- The characters that were typed, in order. -/
def characters (frame : Frame) : List Char :=
  frame.texts.flatMap String.toList

/-- The labels of the buttons for what was typed, with `=` for Enter at the end. -/
def labels (frame : Frame) : List String :=
  (frame.characters.filter (· ∈ keyCharacters)).map Char.toString ++
    if frame.enter then ["="] else []

/-- A frame is cut into frames: together they have its characters, none has Escape, and Enter stays
in the last one. -/
structure IsCut (frame : Frame) (before : List Frame) (last : Frame) : Prop where
  /-- No character is lost or moved. -/
  characters : (before ++ [last]).flatMap Frame.characters = frame.characters
  /-- Escape is not pressed. -/
  escape : ∀ part ∈ before ++ [last], part.escape = false
  /-- Enter is pressed in the last frame at most. -/
  enter_before : ∀ part ∈ before, part.enter = false
  /-- It is pressed there if it was pressed in the whole. -/
  enter_last : last.enter = frame.enter

/-- The keys of a frame are those of its characters and of Enter. -/
theorem commands_eq (frame : Frame) :
    frame.commands = frame.characters.filterMap Command.ofTyped? ++
      if frame.enter then [.equals] else [] := rfl

/-- Frames without Enter ask for what their characters ask for, one after the other. -/
theorem flatMap_commands {parts : List Frame} (h : ∀ part ∈ parts, part.enter = false) :
    parts.flatMap commands = (parts.flatMap Frame.characters).filterMap Command.ofTyped? := by
  induction parts with
  | nil => rfl
  | cons part parts ih =>
    obtain ⟨hpart, hparts⟩ := List.forall_mem_cons.mp h
    rw [List.flatMap_cons, List.flatMap_cons, ih hparts, commands_eq, hpart, List.filterMap_append]
    simp

/-- Cutting a frame leaves its keys and their order alone. -/
theorem IsCut.flatMap_commands {frame : Frame} {before : List Frame} {last : Frame}
    (h : frame.IsCut before last) : (before ++ [last]).flatMap commands = frame.commands := by
  have hcharacters := h.characters
  rw [List.flatMap_append, List.flatMap_singleton] at hcharacters ⊢
  rw [Frame.flatMap_commands h.enter_before, commands_eq, commands_eq, h.enter_last,
    ← List.append_assoc, ← List.filterMap_append, hcharacters]

/-- The keys of a frame are among those of the keypad. -/
theorem exists_button_of_mem_commands {frame : Frame} {command : Command}
    (h : command ∈ frame.commands) : ∃ button : Button, button.command = command := by
  rw [commands_eq, List.mem_append] at h
  rcases h with h | h
  · obtain ⟨c, -, hc⟩ := List.mem_filterMap.mp h
    exact Command.exists_button_of_ofTyped? hc
  · split_ifs at h
    · obtain rfl := List.mem_singleton.mp h
      exact ⟨.equals, rfl⟩
    · cases h

/-- What a frame asks for are keys. -/
theorem isKey_of_mem_commands {frame : Frame} {command : Command} (h : command ∈ frame.commands) :
    command.isKey = true := by
  obtain ⟨button, rfl⟩ := exists_button_of_mem_commands h
  exact button.isKey_command

end Frame

/-! ## Several keys -/

namespace Calculator

/-- Keys may be typed in two parts. -/
theorem typeKeys_append (scale : Scale) (calculator : Calculator) (before after : List Command) :
    calculator.typeKeys scale (before ++ after) =
      (calculator.typeKeys scale before).typeKeys scale after := by
  rw [typeKeys, List.map_append, run_append]
  rfl

/-- Under an alert keys do nothing. -/
theorem typeKeys_eq_self (h : calculator.screen.alert.isSome = true) {commands : List Command}
    (hkeys : ∀ command ∈ commands, command.isKey = true) :
    calculator.typeKeys scale commands = calculator := by
  induction commands with
  | nil => rfl
  | cons command commands ih =>
    obtain ⟨hkey, hkeys⟩ := List.forall_mem_cons.mp hkeys
    have hcons : calculator.typeKeys scale (command :: commands) =
        (calculator.perform scale (.command command)).typeKeys scale commands := rfl
    rw [hcons, perform_of_alert hkey h]
    exact ih hkeys

/-- Pressing the buttons of several characters does what typing them does. -/
theorem foldl_pressLabel (scale : Scale) (calculator : Calculator) (characters : List Char) :
    ((characters.filter (· ∈ keyCharacters)).map Char.toString).foldl (pressLabel scale)
        calculator =
      calculator.typeKeys scale (characters.filterMap Command.ofTyped?) := by
  induction characters generalizing calculator with
  | nil => rfl
  | cons c characters ih =>
    by_cases hc : c ∈ keyCharacters
    · rw [List.filter_cons_of_pos (by simpa using hc), List.map_cons, List.foldl_cons,
        List.filterMap_cons_some (Command.ofTyped?_eq_some hc)]
      exact ih _
    · rw [List.filter_cons_of_neg (by simpa using hc),
        List.filterMap_cons_none (Command.ofTyped?_eq_none hc)]
      exact ih _

/-! ## Frames -/

/-- Without Escape, a frame that finds no alert types its keys. -/
theorem readFrame_of_not_escape {frame : Frame} (h : frame.escape = false) :
    calculator.readFrame scale frame false = calculator.typeKeys scale frame.commands := by
  simp [readFrame, h]

/-- Frames without Escape, one after the other, are their keys one after the other. -/
theorem foldl_readFrame {parts : List Frame} (h : ∀ part ∈ parts, part.escape = false) :
    parts.foldl (fun calculator part => calculator.readFrame scale part false) calculator =
      calculator.typeKeys scale (parts.flatMap Frame.commands) := by
  induction parts generalizing calculator with
  | nil => rfl
  | cons part parts ih =>
    obtain ⟨hpart, hparts⟩ := List.forall_mem_cons.mp h
    rw [List.foldl_cons, List.flatMap_cons, typeKeys_append, ih hparts,
      readFrame_of_not_escape hpart]

/-- A frame presses the buttons whose labels are among its characters, and then `=` if Enter was
pressed. -/
theorem readFrame_eq_foldl_pressLabel {frame : Frame} (h : frame.escape = false) :
    calculator.readFrame scale frame false = frame.labels.foldl (pressLabel scale) calculator := by
  rw [readFrame_of_not_escape h, Frame.commands_eq, Frame.labels, typeKeys_append,
    List.foldl_append, foldl_pressLabel]
  cases frame.enter <;> rfl

/-- Once the first keys of a frame have opened an alert, the others do nothing. -/
theorem readFrame_eq_typeKeys_of_alert {frame : Frame} (h : frame.escape = false)
    {keys rest : List Command} (hcommands : frame.commands = keys ++ rest)
    (halert : (calculator.typeKeys scale keys).screen.alert.isSome = true) :
    calculator.readFrame scale frame false = calculator.typeKeys scale keys := by
  rw [readFrame_of_not_escape h, hcommands, typeKeys_append]
  apply typeKeys_eq_self halert
  intro command hcommand
  apply Frame.isKey_of_mem_commands
  rw [hcommands]
  exact List.mem_append_right _ hcommand

/-- If part of what is typed in a frame opens an alert, then the rest of the frame can be cut off,
Enter included. -/
theorem readFrame_eq_of_alert {frame : Frame} (h : frame.escape = false) {texts : List String}
    {after : List Char} (hcharacters : frame.characters = texts.flatMap String.toList ++ after)
    (halert : (calculator.readFrame scale { texts } false).screen.alert.isSome = true)
    (enter : Bool) :
    calculator.readFrame scale frame false = calculator.readFrame scale { texts, enter } false := by
  let keys := (texts.flatMap String.toList).filterMap Command.ofTyped?
  have hcut : ({ texts } : Frame).commands = keys := List.append_nil _
  rw [readFrame_of_not_escape rfl, hcut] at halert
  have hframe : frame.commands = keys ++ (after.filterMap Command.ofTyped? ++
      if frame.enter then [.equals] else []) := by
    rw [Frame.commands_eq, hcharacters, List.filterMap_append, List.append_assoc]
  have hpart : ({ texts, enter } : Frame).commands = keys ++ if enter then [.equals] else [] := rfl
  rw [readFrame_eq_typeKeys_of_alert h hframe halert,
    readFrame_eq_typeKeys_of_alert rfl hpart halert]

/-- A frame without Escape presses the buttons whose labels are among its characters, in order, and
then `=` if Enter was pressed. Cut into several frames with Enter in the last of them, it does the
same; and if a part of what was typed opens an alert, it does the same without all that follows. -/
theorem readFrame_eq_presses (scale : Scale) (calculator : Calculator) {frame : Frame}
    (hescape : frame.escape = false) :
    calculator.readFrame scale frame false = frame.labels.foldl (pressLabel scale) calculator ∧
    (∀ (before : List Frame) (last : Frame), frame.IsCut before last →
      (before ++ [last]).foldl (fun calculator part => calculator.readFrame scale part false)
        calculator = calculator.readFrame scale frame false) ∧
    ∀ (texts : List String) (after : List Char),
      frame.characters = texts.flatMap String.toList ++ after →
      (calculator.readFrame scale { texts } false).screen.alert.isSome = true →
      ∀ enter : Bool,
        calculator.readFrame scale frame false =
          calculator.readFrame scale { texts, enter } false := by
  refine ⟨readFrame_eq_foldl_pressLabel hescape, ?_, ?_⟩
  · intro before last hcut
    rw [foldl_readFrame hcut.escape, hcut.flatMap_commands, readFrame_of_not_escape hescape]
  · intro texts after hcharacters halert enter
    exact readFrame_eq_of_alert hescape hcharacters halert enter

/-- The texts `8/é0=5` and Enter, typed behind `7-`: the `=` opens an alert, which `5` and Enter
meet. -/
theorem readFrame_eq_presses_of_alert :
    let calculator := start.typeKeys .wrapped [.digits "7", .operator "-"]
    let frame : Frame := { texts := ["8/é0", "=5"], enter := true }
    let shown : Screen := { text := "7-8/0", alert := some "Expression incorrecte" }
    frame.escape = false ∧
      calculator.readFrame .wrapped frame false =
        ["8", "/", "0", "=", "5", "="].foldl (pressLabel .wrapped) calculator ∧
      ((calculator.readFrame .wrapped { texts := ["8"] } false).readFrame .wrapped
          { texts := ["/é", "", "0=5"], enter := true } false).screen = shown ∧
      (calculator.readFrame .wrapped { texts := ["8/", "é0="] } false).screen = shown ∧
      (calculator.readFrame .wrapped frame false).screen = shown := by
  intro calculator frame shown
  have hescape : frame.escape = false := rfl
  have hopened :
      (calculator.readFrame .wrapped { texts := ["8/", "é0="] } false).screen = shown := by
    decide +kernel
  obtain ⟨hpresses, hcut, halert⟩ := readFrame_eq_presses .wrapped calculator hescape
  have hframe : (calculator.readFrame .wrapped frame false).screen = shown := by
    rw [halert ["8/", "é0="] ['5'] (by decide +kernel) (by rw [hopened]; rfl) false]
    exact hopened
  have hparts : frame.IsCut [{ texts := ["8"] }] { texts := ["/é", "", "0=5"], enter := true } := by
    refine ⟨by decide +kernel, by decide, by decide, rfl⟩
  have hcutFrames := hcut _ _ hparts
  rw [List.singleton_append, List.foldl_cons, List.foldl_cons, List.foldl_nil] at hcutFrames
  refine ⟨hescape, hpresses, ?_, hopened, hframe⟩
  rw [hcutFrames]
  exact hframe

end Calculator

end KeypadCalculator
