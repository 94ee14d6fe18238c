import MazeClient.Config.ConfigLoader

set_option autoImplicit false

namespace MazeClient

namespace ReplayService

def isSpace (c : Char) : Bool :=
  let n := c.toNat
  (9 ≤ n && n ≤ 13) || (28 ≤ n && n ≤ 32) || n = 133 || n = 160 || n = 5760 ||
    (8192 ≤ n && n ≤ 8202) || n = 8232 || n = 8233 || n = 8239 || n = 8287 || n = 12288

def isLineBreak (c : Char) : Bool :=
  let n := c.toNat
  (10 ≤ n && n ≤ 13) || (28 ≤ n && n ≤ 30) || n = 133 || n = 8232 || n = 8233

def universalNewlines : Text → Text
  | [] => []
  | '\r' :: '\n' :: rest => '\n' :: universalNewlines rest
  | c :: rest => (if c = '\r' then '\n' else c) :: universalNewlines rest

-- `quote` is the quotation mark that is open.
def stripInlineComment (quote : Option Char) : Text → Except String Text
  | [] => if quote.isSome then .error "Client config contains an unterminated quote" else .ok []
  | c :: rest =>
      match quote with
      | some mark => do
          return c :: (← stripInlineComment (if c = mark then none else some mark) rest)
      | none =>
          if isQuote c then do return c :: (← stripInlineComment (some c) rest)
          else if c = '#' then .ok []
          else do return c :: (← stripInlineComment none rest)

def stripQuotes (value : Text) : Except String Text :=
  match value.head?, value.getLast? with
  | some first, some last =>
      if isQuote first ∨ isQuote last then
        if value.length < 2 ∨ first ≠ last then
          .error "Client config contains mismatched quotes"
        else .ok ((value.drop 1).dropLast)
      else .ok value
  | _, _ => .ok value

def viz : Text := "viz".toList

def outputDir : Text := "output_dir".toList

def serverPort : Text := "server_port".toList

def readLines (currentSection : Text) (values : List (Text × Text)) :
    List Text → Except String (List (Text × Text))
  | [] => .ok values
  | raw :: rest => do
      let line ← stripInlineComment none raw
      match splitColon (strip isSpace line) with
      | none => readLines currentSection values rest
      | some (before, after) =>
          let key := strip isSpace before
          let value := strip isSpace after
          if !hasIndent line && value.isEmpty then readLines key values rest
          else if !hasIndent line || currentSection ≠ viz then readLines currentSection values rest
          else if key ≠ outputDir && key ≠ serverPort then readLines currentSection values rest
          else if (values.lookup key).isSome then
            .error ("duplicate Client config field: viz." ++ String.ofList key)
          else do
            let value ← stripQuotes value
            readLines currentSection ((key, value) :: values) rest

def readVizConfig (text : Text) : Except String (Text × Text) := do
  let values ← readLines [] [] (splitLines isLineBreak (universalNewlines text))
  let dir := (values.lookup outputDir).getD []
  let port := (values.lookup serverPort).getD []
  if dir.isEmpty then .error "missing Client config field: viz.output_dir"
  else if port.isEmpty then .error "missing Client config field: viz.server_port"
  else return (dir, port)

end ReplayService

open ReplayService ConfigLoader

-- A line of the Client, as the launcher meets it: without the CR of a CRLF.
def lineBody (line : Text) : Text := if line.getLast? = some '\r' then line.dropLast else line

structure ReadAlike (line : Text) : Prop where
  whole : ∀ c ∈ lineBody line, isLineBreak c = false
  comment : stripInlineComment none (lineBody line) = .ok (cutComment false (lineBody line))
  trimmed : strip isSpace (cutComment false (lineBody line)) =
    trim (cutComment false (lineBody line))
  parts : ∀ before after, splitColon (trim (cutComment false (lineBody line))) =
    some (before, after) → strip isSpace before = trim before ∧ strip isSpace after = trim after

theorem lineBody_cons_cons (c d : Char) (line : Text) :
    lineBody (c :: d :: line) = c :: lineBody (d :: line) := by
  unfold lineBody
  rw [List.getLast?_cons_cons]
  split <;> rfl

theorem lineBody_cons {c : Char} (other : c ≠ '\r') (line : Text) :
    lineBody (c :: line) = c :: lineBody line := by
  cases line with
  | nil => simp [lineBody, other]
  | cons d line => exact lineBody_cons_cons c d line

theorem splitLines_cons {ends : Char → Bool} {c : Char} (inner : ends c = false) (text : Text) :
    splitLines ends (c :: text) = match splitLines ends text with
      | [] => [[c]]
      | line :: lines => (c :: line) :: lines := by
  rw [splitLines, inner]
  rfl

theorem splitLines_ends {ends : Char → Bool} {c : Char} (lineEnd : ends c = true) (text : Text) :
    splitLines ends (c :: text) = [] :: splitLines ends text := if_pos lineEnd

theorem splitLines_eq_nil {ends : Char → Bool} {text : Text} (none_ : splitLines ends text = []) :
    text = [] := by
  cases text with
  | nil => rfl
  | cons c text =>
      cases lineEnd : ends c
      · rw [splitLines_cons lineEnd] at none_
        cases rest : splitLines ends text <;> simp [rest] at none_
      · simp [splitLines_ends lineEnd] at none_

theorem splitLines_empty {ends : Char → Bool} {text : Text} {lines : List Text}
    (empty : splitLines ends text = [] :: lines) : ∃ c rest, text = c :: rest ∧ ends c = true := by
  cases text with
  | nil => cases empty
  | cons c text =>
      cases lineEnd : ends c
      · rw [splitLines_cons lineEnd] at empty
        cases rest : splitLines ends text <;> simp [rest] at empty
      · exact ⟨c, text, rfl, lineEnd⟩

theorem lineBody_onward {c : Char} {text line : Text} {others : List Text}
    (plain : ∀ rest, c = '\r' → text = '\n' :: rest → False)
    (lines : splitLines (· = '\n') text = line :: others) :
    lineBody (c :: line) = c :: lineBody line := by
  by_cases return_ : c = '\r'
  · cases line with
    | nil =>
        obtain ⟨d, rest, rfl, lineEnd⟩ := splitLines_empty lines
        exact (plain rest return_ (by rw [of_decide_eq_true lineEnd])).elim
    | cons d line => exact lineBody_cons_cons c d line
  · exact lineBody_cons return_ line

theorem splitLines_universalNewlines {text : Text}
    (whole : ∀ line ∈ splitLines (· = '\n') text, ∀ c ∈ lineBody line, isLineBreak c = false) :
    splitLines isLineBreak (universalNewlines text) =
      (splitLines (· = '\n') text).map lineBody := by
  have breaks (text : Text) :
      splitLines isLineBreak ('\n' :: text) = [] :: splitLines isLineBreak text :=
    splitLines_ends (by decide) text
  have ended (text : Text) :
      splitLines (· = '\n') ('\n' :: text) = [] :: splitLines (· = '\n') text :=
    splitLines_ends (by decide) text
  have onward {c : Char} (apart : c ≠ '\n') (text : Text) : splitLines (· = '\n') (c :: text) =
      match splitLines (· = '\n') text with
        | [] => [[c]]
        | line :: lines => (c :: line) :: lines := splitLines_cons (by simpa using apart) text
  fun_induction universalNewlines text with
  | case1 => rfl
  | case2 rest ih =>
      rw [onward (by decide), ended] at whole ⊢
      rw [breaks, ih (List.forall_mem_cons.mp whole).2]
      rfl
  | case3 c rest plain ih =>
      by_cases newline : c = '\n'
      · subst newline
        rw [ended] at whole ⊢
        rw [if_neg (by decide), breaks, ih (List.forall_mem_cons.mp whole).2]
        rfl
      rw [onward newline] at whole ⊢
      cases lines : splitLines (· = '\n') rest with
      | nil =>
          obtain rfl := splitLines_eq_nil lines
          by_cases return_ : c = '\r'
          · subst return_
            rfl
          · rw [lines] at whole
            have inner : isLineBreak c = false := by
              refine whole [c] (by simp) c ?_
              simp [lineBody_cons return_]
            have single : lineBody [c] = [c] := lineBody_cons return_ []
            rw [if_neg return_, splitLines_cons inner]
            change [[c]] = [lineBody [c]]
            rw [single]
      | cons line others =>
          rw [lines] at whole ih
          have body := lineBody_onward plain lines
          simp only [List.forall_mem_cons, body] at whole
          have return_ : c ≠ '\r' := by
            rintro rfl
            exact absurd whole.1.1 (by decide)
          rw [if_neg return_, splitLines_cons whole.1.1,
            ih (List.forall_mem_cons.mpr ⟨whole.1.2, whole.2⟩)]
          simp [body]

theorem lineBody_cases (line : Text) :
    lineBody line = line ∨ line = lineBody line ++ ['\r'] := by
  unfold lineBody
  split
  case isTrue last =>
    exact .inr (List.dropLast_append_getLast? _ last).symm
  case isFalse => exact .inl rfl

theorem trim_return (text : Text) : trim (text ++ ['\r']) = trim text := by
  unfold trim strip
  by_cases blank : ∀ c ∈ text, isBlank c = true
  · rw [List.dropWhile_append_of_pos blank, List.dropWhile_eq_nil_iff.mpr blank]
    rfl
  · have some_ : text.dropWhile isBlank ≠ [] := fun none_ => blank (List.dropWhile_eq_nil_iff.mp none_)
    rw [List.dropWhile_append, if_neg (by simpa using some_)]
    exact List.rdropWhile_concat_pos _ _ _ (by decide)

theorem cutComment_return (inQuotes : Bool) (text : Text) :
    cutComment inQuotes (text ++ ['\r']) = cutComment inQuotes text ∨
      cutComment inQuotes (text ++ ['\r']) = cutComment inQuotes text ++ ['\r'] := by
  induction text generalizing inQuotes with
  | nil =>
      right
      cases inQuotes <;> rfl
  | cons c text ih =>
      simp only [List.cons_append, cutComment]
      split
      · simpa using ih (!inQuotes)
      split
      · exact .inl rfl
      · simpa using ih inQuotes

-- The CR of a CRLF changes nothing of what the Client reads on a line.
theorem parseLines_lineBody (currentSection : Text) (lines : List Text) :
    parseLines currentSection lines = parseLines currentSection (lines.map lineBody) := by
  induction lines generalizing currentSection with
  | nil => rfl
  | cons line lines ih =>
      have same : trim (cutComment false line) = trim (cutComment false (lineBody line)) ∧
          hasIndent (cutComment false line) = hasIndent (cutComment false (lineBody line)) := by
        rcases lineBody_cases line with body | returned
        · rw [body]
          exact ⟨rfl, rfl⟩
        · generalize lineBody line = text at returned ⊢
          subst returned
          rcases cutComment_return false text with kept | kept <;> rw [kept]
          · exact ⟨rfl, rfl⟩
          · refine ⟨trim_return _, ?_⟩
            cases cutComment false text <;> rfl
      simp only [parseLines, List.map_cons, same, ih]

theorem stripQuotes_eq {value stripped : Text}
    (accepted : ReplayService.stripQuotes value = .ok stripped) :
    ConfigLoader.stripQuotes value = stripped := by
  unfold ReplayService.stripQuotes at accepted
  split at accepted
  case h_1 first last head tail =>
    split at accepted
    case isTrue quoted =>
      split at accepted
      · cases accepted
      case isFalse matched =>
        obtain rfl := Except.ok.inj accepted
        obtain ⟨long, rfl⟩ := not_or.mp matched |>.imp Nat.le_of_not_lt not_not.mp
        have mark : first = doubleQuote ∨ first = singleQuote := by simpa [isQuote] using quoted
        rw [ConfigLoader.stripQuotes, if_pos]
        refine ⟨long, mark.imp ?_ ?_⟩ <;> rintro rfl <;> exact ⟨head, tail⟩
    case isFalse plain =>
      obtain rfl := Except.ok.inj accepted
      rw [ConfigLoader.stripQuotes, if_neg]
      rintro ⟨-, ⟨opens, -⟩ | ⟨opens, -⟩⟩ <;>
        obtain rfl := Option.some.inj (head.symm.trans opens) <;> simp [isQuote] at plain
  case h_2 none_ =>
    obtain rfl := Except.ok.inj accepted
    cases value with
    | nil => rfl
    | cons c value =>
        exact absurd List.getLast?_cons (none_ c _ rfl)

theorem findEntry_cons (entry : YamlEntry) (entries : List YamlEntry) (sectionName key : Text) :
    findEntry (entry :: entries) sectionName key =
      if entry.sectionName = sectionName ∧ entry.key = key then some entry.value
      else findEntry entries sectionName key := by
  unfold findEntry
  rw [List.find?_cons]
  split <;> simp_all

inductive Taken (values : List (Text × Text)) : Option YamlEntry → List (Text × Text) → Prop
  | nothing : Taken values none values
  | foreign {entry : YamlEntry} (apart : entry.sectionName = viz →
      entry.key ≠ outputDir ∧ entry.key ≠ serverPort) : Taken values (some entry) values
  | field {entry : YamlEntry} (inside : entry.sectionName = viz)
      (fresh : values.lookup entry.key = none) :
      Taken values (some entry) ((entry.key, entry.value) :: values)

theorem Taken.lookup {values after : List (Text × Text)} {entry : Option YamlEntry}
    (taken : Taken values entry after) {key : Text} (wanted : key = outputDir ∨ key = serverPort)
    (entries : List YamlEntry) :
    (after.lookup key).or (findEntry entries viz key) =
      (values.lookup key).or (findEntry (entry.toList ++ entries) viz key) := by
  cases taken with
  | nothing => rfl
  | @foreign entry apart =>
      have other : ¬ (entry.sectionName = viz ∧ entry.key = key) := by
        rintro ⟨inside, rfl⟩
        rcases wanted with same | same
        · exact (apart inside).1 same
        · exact (apart inside).2 same
      rw [Option.toList_some, List.singleton_append, findEntry_cons, if_neg other]
  | @field entry inside fresh =>
      rw [Option.toList_some, List.singleton_append, findEntry_cons, List.lookup_cons]
      by_cases same : entry.key = key
      · rw [if_pos ⟨inside, same⟩, ← same, fresh]
        simp
      · have other : (key == entry.key) = false := by simpa using Ne.symm same
        rw [if_neg fun both => same both.2, other]

section Line

variable {line : Text} {lines : List Text} {currentSection : Text}
  {values result : List (Text × Text)}

theorem passed_over {key value : Text} {named : Bool}
    (apart : currentSection = viz → key ≠ outputDir ∧ key ≠ serverPort)
    (read : readLines currentSection values lines = .ok result) :
    ∃ sectionName entry taken, Taken values entry taken ∧
      readLines sectionName taken lines = .ok result ∧
      (if named then
          { sectionName := currentSection, key, value } :: parseLines currentSection lines
        else parseLines currentSection lines) =
        entry.toList ++ parseLines sectionName lines := by
  cases named with
  | true => exact ⟨_, some _, _, .foreign apart, read, rfl⟩
  | false => exact ⟨_, none, _, .nothing, read, rfl⟩

theorem readLines_line (alike : ReadAlike line)
    (read : readLines currentSection values (lineBody line :: lines) = .ok result) :
    ∃ sectionName entry after, Taken values entry after ∧
      readLines sectionName after lines = .ok result ∧
      parseLines currentSection (lineBody line :: lines) =
        entry.toList ++ parseLines sectionName lines := by
  obtain ⟨-, comment, trimmed, parts⟩ := alike
  rw [readLines, comment] at read
  rw [parseLines]
  generalize cutComment false (lineBody line) = text at trimmed parts read ⊢
  simp only [bind, Except.bind, trimmed] at read
  dsimp only
  cases colon : splitColon (trim text) with
  | none =>
      rw [colon] at read
      exact ⟨_, none, _, .nothing, read, rfl⟩
  | some pair =>
      obtain ⟨before, after⟩ := pair
      obtain ⟨first, second⟩ := parts before after colon
      rw [colon] at read
      simp only [first, second] at read ⊢
      split at read
      case isTrue declares =>
        rw [if_pos declares]
        exact ⟨_, none, _, .nothing, read, rfl⟩
      case isFalse field =>
      rw [if_neg field]
      split at read
      case isTrue elsewhere =>
        by_cases indented : hasIndent text = true
        · exact passed_over (fun inside => by simp [indented, inside] at elsewhere) read
        · rw [if_neg (by simp [indented])]
          exact ⟨_, none, _, .nothing, read, rfl⟩
      case isFalse inside =>
      simp only [Bool.or_eq_true, Bool.not_eq_true', decide_eq_true_eq, not_or,
        Bool.not_eq_false, ne_eq, not_not] at inside
      obtain ⟨indented, rfl⟩ := inside
      split at read
      case isTrue other => exact passed_over (fun _ => by simpa using other) read
      case isFalse either =>
      split at read
      · cases read
      case isFalse fresh =>
      have named : (trim before).isEmpty = false := by
        have either : trim before = outputDir ∨ trim before = serverPort := by
          by_contra neither
          exact either (by simpa [not_or] using neither)
        rcases either with same | same <;> rw [same] <;> decide
      rw [if_pos (by simp [indented, named])]
      cases stripped : ReplayService.stripQuotes (trim after) with
      | error message =>
          rw [stripped] at read
          cases read
      | ok value =>
          rw [stripped] at read
          rw [stripQuotes_eq stripped]
          exact ⟨_, some _, _, .field rfl (Option.not_isSome_iff_eq_none.mp fresh), read, rfl⟩

end Line

theorem readLines_lookup {lines : List Text} {currentSection : Text}
    {values result : List (Text × Text)} (alike : ∀ line ∈ lines, ReadAlike line)
    (read : readLines currentSection values (lines.map lineBody) = .ok result) {key : Text}
    (wanted : key = outputDir ∨ key = serverPort) :
    result.lookup key = (values.lookup key).or
      (findEntry (parseLines currentSection (lines.map lineBody)) viz key) := by
  induction lines generalizing currentSection values with
  | nil =>
      obtain rfl := Except.ok.inj read
      simp [parseLines, findEntry]
  | cons line lines ih =>
      obtain ⟨here, others⟩ := List.forall_mem_cons.mp alike
      obtain ⟨sectionName, entry, after, taken, rest, parsed⟩ := readLines_line here read
      rw [ih others rest, List.map_cons, parsed, taken.lookup wanted]

theorem readVizConfig_values {text dir port : Text} (read : readVizConfig text = .ok (dir, port)) :
    ∃ values, readLines [] [] (splitLines isLineBreak (universalNewlines text)) = .ok values ∧
      (values.lookup outputDir).getD [] = dir ∧ (values.lookup serverPort).getD [] = port := by
  unfold readVizConfig at read
  cases lines : readLines [] [] (splitLines isLineBreak (universalNewlines text)) with
  | error message =>
      rw [lines] at read
      cases read
  | ok values =>
      rw [lines] at read
      simp only [bind, Except.bind] at read
      split at read
      · cases read
      split at read
      · cases read
      obtain ⟨rfl, rfl⟩ := Prod.mk.inj (Except.ok.inj read)
      exact ⟨values, rfl, rfl, rfl⟩

theorem loadEntries_eq {text : Text} {entries : List YamlEntry}
    (loaded : loadEntries text = .ok entries) : entries = parseYaml text := by
  unfold loadEntries at loaded
  dsimp only at loaded
  split at loaded
  · cases loaded
  split at loaded
  · cases loaded
  exact (Except.ok.inj loaded).symm

/-- A config text that both read, and read alike line by line, names one replay directory and
port. -/
theorem same_viz_config {text dir port : Text} {entries : List YamlEntry}
    (client : loadEntries text = .ok entries) (launcher : readVizConfig text = .ok (dir, port))
    (alike : ∀ line ∈ splitLines (· = '\n') text, ReadAlike line) :
    findValue entries viz outputDir = dir ∧ findValue entries viz serverPort = port := by
  obtain rfl := loadEntries_eq client
  obtain ⟨values, read, rfl, rfl⟩ := readVizConfig_values launcher
  rw [splitLines_universalNewlines fun line member => (alike line member).whole] at read
  have found {key : Text} (wanted : key = outputDir ∨ key = serverPort) :
      findValue (parseYaml text) viz key = (values.lookup key).getD [] := by
    rw [readLines_lookup alike read wanted, findValue, parseYaml, parseLines_lineBody]
    rfl
  exact ⟨found (.inl rfl), found (.inr rfl)⟩

instance (line : Text) : Decidable (ReadAlike line) :=
  let text := cutComment false (lineBody line)
  decidable_of_iff ((lineBody line).any isLineBreak = false ∧
      stripInlineComment none (lineBody line) = .ok text ∧ strip isSpace text = trim text ∧
      ∀ pair ∈ splitColon (trim text),
        strip isSpace pair.1 = trim pair.1 ∧ strip isSpace pair.2 = trim pair.2)
    ⟨fun ⟨whole, comment, trimmed, parts⟩ =>
        ⟨by simpa using whole, comment, trimmed, fun before after => parts (before, after)⟩,
      fun ⟨whole, comment, trimmed, parts⟩ =>
        ⟨by simpa using whole, comment, trimmed, fun pair => parts pair.1 pair.2⟩⟩

def sampleConfig (dir : String) : Text :=
  ["run: # identities\n", "  client_instance_id: client\n", "  environment_instance_id: env\n",
    "  log_interval: 10\n", "viz:\r\n", "  output_dir: ", dir, "\n", "\tinterval : 1\n",
    "  server_port: '9004'\n", "env:\n", "  map_registry_dir: \"../maps\"\n", "network:\n",
    "  server_host: \"[::1]\"\n", "  server_port: 9002\n",
    "  abort_wait_timeout_ms: 30000\n"].flatMap String.toList

theorem same_viz_config_quoted : ∃ entries,
    loadEntries (sampleConfig "\"../log: #1\" # frames") = .ok entries ∧
      findValue entries viz outputDir = "../log: #1".toList ∧
      findValue entries viz serverPort = "9004".toList := by
  obtain ⟨client, launcher, alike⟩ :
      loadEntries (sampleConfig "\"../log: #1\" # frames") =
          .ok (parseYaml (sampleConfig "\"../log: #1\" # frames")) ∧
        readVizConfig (sampleConfig "\"../log: #1\" # frames") =
          .ok ("../log: #1".toList, "9004".toList) ∧
        ∀ line ∈ splitLines (· = '\n') (sampleConfig "\"../log: #1\" # frames"), ReadAlike line := by
    decide +kernel
  exact ⟨_, client, same_viz_config client launcher alike⟩

/-- Inside double quotes an apostrophe ends the quotes for the Client, and the `#` behind it cuts
the value. -/
theorem viz_config_differs : ∃ entries,
    loadEntries (sampleConfig "\"it's #1\"") = .ok entries ∧
      readVizConfig (sampleConfig "\"it's #1\"") =
        .ok ("it's #1".toList, "9004".toList) ∧
      findValue entries viz outputDir = "\"it's".toList :=
  ⟨parseYaml (sampleConfig "\"it's #1\""), by decide +kernel⟩

end MazeClient
