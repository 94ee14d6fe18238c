import MazeClient.Maze.NumberReading
import MazeClient.Replay.RecordedLines

set_option autoImplicit false

namespace MazeClient

open JsonReader TextSearch Wire

namespace Compact

theorem reads_string {text : Text} (plain : Plain text) : Reads (string text) (.string text) :=
  JsonReader.reads_string plain

theorem spread (close : Char) {parts : List Text} (some_ : parts ≠ []) :
    Spread close parts ([','].intercalate parts ++ [close]) := by
  have blank : Blank [] := by simp [Blank]
  induction parts with
  | nil => contradiction
  | cons part rest ih =>
      cases rest with
      | nil => simpa using @Spread.last close part [] blank
      | cons next others =>
          have tail := ih (List.cons_ne_nil _ _)
          simpa [List.intercalate, List.intersperse] using @Spread.next close part [] [] _ _ blank blank tail

theorem contains (start close : Char) (parts : List Text) :
    Contains start close parts (start :: ([','].intercalate parts ++ [close])) := by
  have blank : Blank [] := by simp [Blank]
  cases parts with
  | nil => exact @Contains.empty start close [] blank
  | cons part rest =>
      exact @Contains.some_ start close [] _ _ blank (spread close (List.cons_ne_nil part rest))

theorem reads_array {parts : List Text} {held : List JsonValue}
    (reads : List.Forall₂ Reads parts held) : Reads (array parts) (.array held) :=
  JsonReader.reads_array (contains '[' ']' parts) reads

theorem member_ {key : String} {text : Text} {held : JsonValue} (plain : Plain key.toList)
    (reads : Reads text held) : Member (member key text) (key.toList, held) := by
  have blank : Blank [] := by simp [Blank]
  simpa [member, string, quoted, doubleQuote] using Member.mk plain blank reads

theorem reads_object {fields : List (String × Text)} {held : List (Text × JsonValue)}
    (members : List.Forall₂ (fun field entry => Member (member field.1 field.2) entry) fields held) :
    Reads (object fields) (.object held) := by
  refine JsonReader.reads_object (contains '{' '}' _) ?_
  exact List.forall₂_map_left_iff.mpr members

end Compact

variable (environment : MazeEnv) (frameId episodeNumber : Nat)
  (actions : List Int)

def agentValue (index : Nat) : JsonValue :=
  let agent := environment.agents.getD index {}
  .object
    [("id".toList, .number agent.id),
      ("x".toList, .number (Ostream.rounded (environment.map.world agent.gridX))),
      ("y".toList, .number (Ostream.rounded (environment.map.world agent.gridY))),
      ("done".toList, .bool agent.done),
      ("action_id".toList, .number (actions.getD index 0 : Int))]

def frameValue : JsonValue :=
  .object
    [("type".toList, .string "frame_update".toList),
      ("frame_id".toList, .number frameId),
      ("episode_id".toList, .number episodeNumber),
      ("map_id".toList, .string environment.map.mapId.toList),
      ("agents".toList, .array ((List.range environment.agents.length).map
        (agentValue environment actions)))]

theorem vizAgent_reads (index : Nat) :
    Reads (vizAgent environment actions index)
      (agentValue environment actions index) := by
  unfold vizAgent agentValue
  refine Compact.reads_object (.cons (Compact.member_ ?_ (numeral_nat _).reads)
    (.cons (Compact.member_ ?_ (Ostream.numeral_float _).reads)
      (.cons (Compact.member_ ?_ (Ostream.numeral_float _).reads)
        (.cons (Compact.member_ ?_ (reads_bool _))
          (.cons (Compact.member_ ?_ (numeral_int _).reads) .nil)))))
  all_goals
    dsimp only
    decide

theorem buildVizJson_reads (plain : Plain environment.map.mapId.toList) :
    Reads (buildVizJson environment frameId episodeNumber actions)
      (frameValue environment frameId episodeNumber actions) := by
  have agents : List.Forall₂ Reads
      ((List.range environment.agents.length).map (vizAgent environment actions))
      ((List.range environment.agents.length).map (agentValue environment actions)) := by
    rw [List.forall₂_map_left_iff, List.forall₂_map_right_iff, List.forall₂_same]
    exact fun index _ => vizAgent_reads environment actions index
  unfold buildVizJson frameValue
  refine Compact.reads_object
    (.cons (Compact.member_ ?_ (Compact.reads_string (by decide)))
      (.cons (Compact.member_ ?_ (numeral_nat _).reads)
        (.cons (Compact.member_ ?_ (numeral_nat _).reads)
          (.cons (Compact.member_ ?_ (Compact.reads_string plain))
            (.cons (Compact.member_ ?_ (Compact.reads_array agents)) .nil)))))
  all_goals
    dsimp only
    decide

section

variable {ok : Char → Prop}

-- What a character of a line may be, besides one of the map's id.
def Printed (c : Char) : Prop := 32 ≤ c.toNat ∧ c.toNat < 128

instance (c : Char) : Decidable (Printed c) := inferInstanceAs (Decidable (_ ∧ _))

theorem isNumeric_printed {c : Char} (numeric : isNumeric c = true) : Printed c := by
  simp only [isNumeric, Bool.or_eq_true, decide_eq_true_eq] at numeric
  rcases numeric with ((((digit | rfl) | rfl) | rfl) | rfl) | rfl
  case inl.inl.inl.inl.inl =>
    simp only [Char.isDigit, Bool.and_eq_true, decide_eq_true_eq] at digit
    have low : 48 ≤ c.toNat := UInt32.le_iff_toNat_le.mp digit.1
    have high : c.toNat ≤ 57 := UInt32.le_iff_toNat_le.mp digit.2
    exact ⟨by omega, by omega⟩
  all_goals exact ⟨by decide, by decide⟩

theorem mem_intercalate {parts : List Text} {c : Char} (member : c ∈ [','].intercalate parts) :
    c = ',' ∨ ∃ part ∈ parts, c ∈ part := by
  induction parts with
  | nil => simp at member
  | cons part rest ih =>
      cases rest with
      | nil => exact .inr ⟨part, List.mem_cons_self, by simpa using member⟩
      | cons next others =>
          rw [List.intercalate_cons_cons, List.mem_append, List.mem_append,
            List.mem_singleton] at member
          rcases member with (first | comma) | later
          · exact .inr ⟨part, List.mem_cons_self, first⟩
          · exact .inl comma
          · rcases ih later with comma | ⟨other, listed, inside⟩
            · exact .inl comma
            · exact .inr ⟨other, List.mem_cons_of_mem _ listed, inside⟩

theorem Compact.array_chars (marks : ∀ c ∈ "[],".toList, ok c) {items : List Text}
    (inside : ∀ item ∈ items, ∀ c ∈ item, ok c) : ∀ c ∈ Compact.array items, ok c := by
  intro c member
  rw [Compact.array, List.cons_append, List.mem_cons, List.mem_append, List.mem_singleton] at member
  rcases member with rfl | between | rfl
  · exact marks _ (by decide)
  · rcases mem_intercalate between with rfl | ⟨item, listed, held⟩
    · exact marks _ (by decide)
    · exact inside item listed c held
  · exact marks _ (by decide)

theorem Compact.string_chars {text : Text} (quote : ok doubleQuote) (inside : ∀ c ∈ text, ok c) :
    ∀ c ∈ Compact.string text, ok c := by
  intro c member
  rw [Compact.string, quoted, List.mem_append, List.mem_cons, List.mem_singleton] at member
  rcases member with (rfl | held) | rfl
  · exact quote
  · exact inside c held
  · exact quote

theorem Compact.object_chars (marks : ∀ c ∈ doubleQuote :: "\x7b\x7d:,".toList, ok c)
    {fields : List (String × Text)}
    (inside : ∀ field ∈ fields, (∀ c ∈ field.1.toList, ok c) ∧ ∀ c ∈ field.2, ok c) :
    ∀ c ∈ Compact.object fields, ok c := by
  intro c member
  rw [Compact.object, List.cons_append, List.mem_cons, List.mem_append, List.mem_singleton] at member
  rcases member with rfl | between | rfl
  · exact marks _ (by decide)
  · rcases mem_intercalate between with rfl | ⟨part, listed, held⟩
    · exact marks _ (by decide)
    · obtain ⟨⟨key, value⟩, field, rfl⟩ := List.mem_map.mp listed
      obtain ⟨name, text⟩ := inside _ field
      change c ∈ Compact.string key.toList ++ ':' :: value at held
      rw [List.mem_append, List.mem_cons] at held
      rcases held with key | rfl | value
      · exact Compact.string_chars (marks _ List.mem_cons_self) name c key
      · exact marks _ (by decide)
      · exact text c value
  · exact marks _ (by decide)

end

theorem buildVizJson_chars : ∀ c ∈ buildVizJson environment frameId episodeNumber actions,
    Printed c ∨ c ∈ environment.map.mapId.toList := by
  have printed {text : Text} (all : text.all (fun c => decide (Printed c)) = true) :
      ∀ c ∈ text, Printed c ∨ c ∈ environment.map.mapId.toList := fun c inside =>
    .inl (of_decide_eq_true (List.all_eq_true.mp all c inside))
  have numeric {token : Text} {number : ℚ} (numeral : Numeral token number) :
      ∀ c ∈ token, Printed c ∨ c ∈ environment.map.mapId.toList := fun c inside =>
    .inl (isNumeric_printed (numeral.numeric c inside))
  have agent (index : Nat) : ∀ c ∈ vizAgent environment actions index,
      Printed c ∨ c ∈ environment.map.mapId.toList := by
    refine Compact.object_chars (printed (by decide)) ?_
    simp only [List.forall_mem_cons]
    refine ⟨⟨printed (by decide), numeric (numeral_int _)⟩,
      ⟨printed (by decide), numeric (Ostream.numeral_float _)⟩,
      ⟨printed (by decide), numeric (Ostream.numeral_float _)⟩,
      ⟨printed (by decide), ?_⟩, ⟨printed (by decide), numeric (numeral_int _)⟩, by simp⟩
    split
    · exact printed (by decide)
    · exact printed (by decide)
  refine Compact.object_chars (printed (by decide)) ?_
  simp only [List.forall_mem_cons]
  refine ⟨⟨printed (by decide), ?_⟩, ⟨printed (by decide), numeric (numeral_int _)⟩,
    ⟨printed (by decide), numeric (numeral_int _)⟩, ⟨printed (by decide), ?_⟩,
    ⟨printed (by decide), ?_⟩, by simp⟩
  · exact Compact.string_chars (.inl ⟨by decide, by decide⟩) (printed (by decide))
  · exact Compact.string_chars (.inl ⟨by decide, by decide⟩) fun c inside => .inr inside
  · refine Compact.array_chars (printed (by decide)) fun item listed => ?_
    obtain ⟨index, -, rfl⟩ := List.mem_map.mp listed
    exact agent index

theorem buildVizJson_ascii (ascii : Ascii environment.map.mapId.toList) :
    Ascii (buildVizJson environment frameId episodeNumber actions) := by
  intro c inside
  rcases buildVizJson_chars environment frameId episodeNumber actions c inside with
    printed | named
  · exact printed.2
  · exact ascii c named

theorem buildVizJson_frameText (plain : Plain environment.map.mapId.toList) :
    FrameText (buildVizJson environment frameId episodeNumber actions)
      (frameValue environment frameId episodeNumber actions) where
  reads := buildVizJson_reads environment frameId episodeNumber actions plain
  object := rfl
  closed := List.getLast?_concat
  printable := by
    intro c inside
    rcases buildVizJson_chars environment frameId episodeNumber actions c inside with
      printed | named
    · exact printed.1
    · exact (plain c named).1

end MazeClient
