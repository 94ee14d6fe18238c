import MazeClient.Maze.GeneratedMaps
import MazeClient.Maze.NumberReading

set_option autoImplicit false

namespace MazeClient

open JsonReader TextSearch

namespace Json

theorem blank_pad (level : Nat) : Blank ('\n' :: pad level) := by
  refine List.forall_mem_cons.mpr ⟨rfl, fun c inside => ?_⟩
  rw [List.eq_of_mem_replicate inside]
  rfl

theorem lines_spread (level : Nat) (close : Char) {parts : List Text} (some_ : parts ≠ []) :
    ∃ text, lines level close parts = pad (level + 1) ++ text ∧ Spread close parts text := by
  induction parts with
  | nil => contradiction
  | cons part rest ih =>
      cases rest with
      | nil =>
          refine ⟨_, ?_, .last (blank_pad level)⟩
          simp [lines]
      | cons next others =>
          obtain ⟨text, same, spread⟩ := ih (List.cons_ne_nil _ _)
          have none_ : Blank [] := by simp [Blank]
          refine ⟨_, ?_, .next none_ (blank_pad (level + 1)) spread⟩
          rw [lines, same]
          · simp
          · simp

theorem container_contains (level : Nat) (start close : Char) (parts : List Text) :
    ∃ text, container level start close parts = start :: text ∧
      Contains start close parts (start :: text) := by
  unfold container
  split
  case isTrue none_ =>
    have blank : Blank [] := by simp [Blank]
    exact ⟨[close], rfl, none_ ▸ .empty blank⟩
  case isFalse some_ =>
    obtain ⟨text, same, spread⟩ := lines_spread level close some_
    refine ⟨_, rfl, ?_⟩
    rw [same, ← List.cons_append]
    exact .some_ (blank_pad (level + 1)) spread

theorem reads_array (level : Nat) {items : List Text} {held : List JsonValue}
    (reads : List.Forall₂ Reads items held) : Reads (array level items) (.array held) := by
  obtain ⟨text, same, contains⟩ := container_contains level '[' ']' items
  rw [array, same]
  exact JsonReader.reads_array contains reads

theorem reads_object (level : Nat) {fields : List (String × Text)}
    {held : List (Text × JsonValue)}
    (members : List.Forall₂ (fun entry value => Member (field entry.1 entry.2) value) fields held) :
    Reads (object level fields) (.object held) := by
  obtain ⟨text, same, contains⟩ := container_contains level '\x7b' '\x7d'
    (fields.map fun entry => field entry.1 entry.2)
  have whole : object level fields = '\x7b' :: text := same
  rw [whole]
  exact JsonReader.reads_object contains (List.forall₂_map_left_iff.mpr members)

theorem member_ {key : String} {text : Text} {held : JsonValue} (plain : Plain key.toList)
    (reads : Reads text held) : Member (field key text) (key.toList, held) := by
  have blank : Blank [' '] := List.forall_mem_singleton.mpr rfl
  simpa [field, string, quoted, doubleQuote] using Member.mk plain blank reads

theorem reads_string {value : String} (plain : Plain value.toList) :
    Reads (string value) (.string value.toList) := JsonReader.reads_string plain

theorem cents_digits (n : Nat) :
    (Nat.ofDigitChars 10 (Nat.toDigits 10 (n / 100) ++ decimals (n % 100)) 0 : ℚ) *
      10 ^ ((0 : Int) - (decimals (n % 100)).length) = (n : ℚ) / 100 := by
  have tens : n % 100 / 10 < 10 := by omega
  have ones : n % 100 % 10 < 10 := by omega
  rw [Nat.ofDigitChars_append, Nat.ofDigitChars_toDigits (by decide) (by decide)]
  unfold decimals
  split
  case isTrue round =>
    rw [Nat.ofDigitChars_cons_digitChar_of_lt_ten tens, Nat.ofDigitChars_nil]
    have whole : n = (10 * (n / 100) + n % 100 / 10) * 10 := by omega
    have cast : (n : ℚ) = (10 * (n / 100) + n % 100 / 10 : Nat) * 10 := by exact_mod_cast whole
    rw [cast, List.length_singleton, zero_sub, zpow_neg, Nat.cast_one, zpow_one]
    ring
  case isFalse uneven =>
    rw [Nat.ofDigitChars_cons_digitChar_of_lt_ten tens,
      Nat.ofDigitChars_cons_digitChar_of_lt_ten ones, Nat.ofDigitChars_nil]
    have whole : n = 10 * (10 * (n / 100) + n % 100 / 10) + n % 100 % 10 := by omega
    rw [← whole]
    norm_num
    ring

theorem numeral_float {value : ℚ} (two : Hundredths value) : Numeral (float value) value := by
  obtain ⟨hundredths, equal⟩ := two
  have floor : ⌊value * 100⌋ = (hundredths : Int) := by rw [equal, Int.floor_natCast]
  have positive : ¬ (hundredths : Int) < 0 := by omega
  have whole : ∀ c ∈ Nat.toDigits 10 (hundredths / 100), c.isDigit = true :=
    fun c => Nat.isDigit_of_mem_toDigits (by decide) (by decide)
  have fraction := MapFile.decimals_isDigit hundredths
  have some_ : decimals (hundredths % 100) ≠ [] := by
    unfold decimals
    split <;> simp
  have text : float value = Nat.toDigits 10 (hundredths / 100) ++
      (point (decimals (hundredths % 100)) ++ []) := by
    unfold float
    rw [floor]
    simp only [if_neg positive, Int.natAbs_natCast, cents, point, if_neg some_, List.append_nil]
  have read : unsigned (float value) = some value := by
    rw [text, unsigned_parts Nat.toDigits_ne_nil whole (toDigits_leading _) fraction (by simp) rfl,
      cents_digits, ← equal]
    congr 1
    ring
  refine .plus ?_ ?_ read
  · rw [text, point, if_neg some_]
    refine List.forall_mem_append.mpr ⟨fun c inside => isDigit_numeric (whole c inside), ?_⟩
    rw [List.append_nil]
    exact List.forall_mem_cons.mpr ⟨rfl, fun c inside => isDigit_numeric (fraction c inside)⟩
  · rw [text, List.head?_append_of_ne_nil _ Nat.toDigits_ne_nil]
    exact fun c first => whole c (List.mem_of_mem_head? first)

end Json

namespace WallSegment

def value (segment : WallSegment) : JsonValue :=
  .object
    [("x1".toList, .number segment.x1), ("y1".toList, .number segment.y1),
      ("x2".toList, .number segment.x2), ("y2".toList, .number segment.y2),
      ("thickness".toList, .number segment.thickness.num)]

theorem json_reads {segment : WallSegment} (drawn : segment.Drawn) :
    Reads segment.json segment.value := by
  unfold json fields value
  refine Json.reads_object 2 (.cons (Json.member_ ?_ (Json.numeral_float drawn.x1).reads)
    (.cons (Json.member_ ?_ (Json.numeral_float drawn.y1).reads)
      (.cons (Json.member_ ?_ (Json.numeral_float drawn.x2).reads)
        (.cons (Json.member_ ?_ (Json.numeral_float drawn.y2).reads)
          (.cons (Json.member_ ?_ (numeral_int _).reads) .nil)))))
  all_goals
    dsimp only
    decide

end WallSegment

namespace MapData

def pointValue (x y : ℚ) : JsonValue := .object [("x".toList, .number x), ("y".toList, .number y)]

theorem point_reads {x y : Text} {a b : ℚ} (first : Numeral x a) (second : Numeral y b) :
    Reads (point x y) (pointValue a b) := by
  refine Json.reads_object 1 (.cons (Json.member_ ?_ first.reads)
    (.cons (Json.member_ ?_ second.reads) .nil))
  all_goals
    dsimp only
    decide

def value (data : MapData) : JsonValue :=
  .object
    [("map_id".toList, .string data.mapId.toList),
      ("seed".toList, .number data.seed),
      ("difficulty".toList, .number data.difficulty),
      ("grid_cols".toList, .number data.gridCols),
      ("grid_rows".toList, .number data.gridRows),
      ("grid_size".toList, .number data.gridSize),
      ("room_size".toList, .number data.roomSize),
      ("room_dim".toList, .number data.roomDim),
      ("bounds".toList, .object
        [("x_min".toList, .number 0), ("x_max".toList, .number data.mapSize),
          ("y_min".toList, .number 0), ("y_max".toList, .number data.mapSize)]),
      ("start_pos".toList, pointValue data.startPos.x data.startPos.y),
      ("end_pos".toList, pointValue data.endPos.x data.endPos.y),
      ("start_grid".toList, pointValue data.startGrid.1 data.startGrid.2),
      ("goal_grid".toList, pointValue data.goalGrid.1 data.goalGrid.2),
      ("blocked_bitmap_encoding".toList, .string "row-major-u8-0-open-1-blocked".toList),
      ("blocked_bitmap_hex".toList, .string (hex data.blockedBitmap)),
      ("wall_count".toList, .number data.walls.length),
      ("walls".toList, .array (data.walls.map WallSegment.value))]

theorem bounds_reads (size : Int) : Reads
    (Json.object 1 [("x_min", Json.int 0), ("x_max", Json.int size), ("y_min", Json.int 0),
      ("y_max", Json.int size)])
    (.object [("x_min".toList, .number 0), ("x_max".toList, .number size),
      ("y_min".toList, .number 0), ("y_max".toList, .number size)]) := by
  have zero : Numeral (Json.int 0) 0 := numeral_int 0
  refine Json.reads_object 1 (.cons (Json.member_ ?_ zero.reads)
    (.cons (Json.member_ ?_ (numeral_int size).reads) (.cons (Json.member_ ?_ zero.reads)
      (.cons (Json.member_ ?_ (numeral_int size).reads) .nil))))
  all_goals
    dsimp only
    decide

theorem hex_plain (bytes : List UInt8) : Plain (hex bytes) := by
  intro c inside
  obtain ⟨byte, -, digit⟩ := List.mem_flatMap.mp inside
  have small : byte.toNat < 256 := UInt8.toNat_lt byte
  have high : byte.toNat / 16 < 16 := by omega
  have low : byte.toNat % 16 < 16 := by omega
  have digits : ∀ n < 16, 32 ≤ n.digitChar.toNat ∧ n.digitChar ≠ Char.ofNat 34 ∧
      n.digitChar ≠ '\\' := by decide
  simp only [List.mem_cons, List.not_mem_nil, or_false] at digit
  rcases digit with rfl | rfl
  · exact digits _ high
  · exact digits _ low

variable {n : Nat} {data : MapData} {blocked : BlockedGrid n n}

theorem Sound.reads (sound : data.Sound blocked) (plain : Plain data.mapId.toList) :
    Reads data.json data.value := by
  have walls : List.Forall₂ Reads (data.walls.map WallSegment.json)
      (data.walls.map WallSegment.value) := by
    rw [List.forall₂_map_left_iff, List.forall₂_map_right_iff, List.forall₂_same]
    exact fun segment member => WallSegment.json_reads (sound.drawn segment member)
  have startPos := point_reads (Json.numeral_float sound.startPos.1)
    (Json.numeral_float sound.startPos.2)
  have endPos := point_reads (Json.numeral_float sound.endPos.1) (Json.numeral_float sound.endPos.2)
  unfold json entries fields value
  refine Json.reads_object 0
    (.cons (Json.member_ ?_ (Json.reads_string plain))
      (.cons (Json.member_ ?_ (numeral_int _).reads)
        (.cons (Json.member_ ?_ (numeral_int _).reads)
          (.cons (Json.member_ ?_ (numeral_nat _).reads)
            (.cons (Json.member_ ?_ (numeral_nat _).reads)
              (.cons (Json.member_ ?_ (Json.numeral_float sound.gridSize).reads)
                (.cons (Json.member_ ?_ (numeral_int _).reads)
                  (.cons (Json.member_ ?_ (numeral_int _).reads)
                    (.cons (Json.member_ ?_ (bounds_reads _))
                      (.cons (Json.member_ ?_ startPos)
                        (.cons (Json.member_ ?_ endPos)
                          (.cons (Json.member_ ?_ (point_reads (numeral_int _) (numeral_int _)))
                            (.cons (Json.member_ ?_ (point_reads (numeral_int _) (numeral_int _)))
                              (.cons (Json.member_ ?_ (Json.reads_string (by decide)))
                                (.cons (Json.member_ ?_ (JsonReader.reads_string (hex_plain _)))
                                  (.cons (Json.member_ ?_ (numeral_nat _).reads)
                                    (.cons (Json.member_ ?_ (Json.reads_array 1 walls))
                                      .nil)))))))))))))))))
  all_goals
    dsimp only
    decide

end MapData

section

variable {n : Nat} {data : MapData} {blocked : BlockedGrid n n}

theorem mapId_json (sound : data.Sound blocked) (map : GridMap) :
    MapFile.mapId data.json map = { map with mapId := data.mapId } := by
  obtain ⟨next, rest, ending, found⟩ := @MapFile.find_lines "map_id" (Json.string data.mapId) 0
    '\x7d' [] (data.entries.tail.map fun entry => Json.field entry.1 entry.2) (by simp)
  have opened : Clear (quoted doubleQuote "map_id".toList) ['\x7b', '\n'] :=
    MapFile.clear_plain (by decide)
  have whole : data.json = ['\x7b', '\n'] ++ Json.lines 0 '\x7d' ([] ++
      Json.field "map_id" (Json.string data.mapId) ::
        data.entries.tail.map fun entry => Json.field entry.1 entry.2) := rfl
  have at_ : find (quoted doubleQuote "map_id".toList) data.json =
      some (Json.field "map_id" (Json.string data.mapId) ++ next :: rest) := by
    rw [whole, find_append opened, found]
  have start : find [doubleQuote] (' ' :: Json.string data.mapId ++ next :: rest) =
      some (doubleQuote :: (data.mapId.toList ++ doubleQuote :: next :: rest)) := by
    have shape : ' ' :: Json.string data.mapId ++ next :: rest =
        [' '] ++ ([doubleQuote] ++ (data.mapId.toList ++ doubleQuote :: next :: rest)) := by
      simp [Json.string, quoted]
    rw [shape, find_append (clear_of_not_mem (by decide))]
    exact find_here _ _
  have close : find [doubleQuote] (data.mapId.toList ++ doubleQuote :: next :: rest) =
      some (doubleQuote :: next :: rest) := by
    rw [find_append (clear_of_not_mem sound.plainId)]
    exact find_here [doubleQuote] (next :: rest)
  have word : (data.mapId.toList ++ doubleQuote :: next :: rest).takeWhile (· ≠ doubleQuote) =
      data.mapId.toList := by
    rw [List.takeWhile_append_of_pos, List.takeWhile_cons_of_neg (by simp), List.append_nil]
    intro c inside
    have apart : c ≠ doubleQuote := fun same => sound.plainId (same ▸ inside)
    simpa using apart
  unfold MapFile.mapId
  rw [MapFile.afterColon_written at_]
  simp only [start, List.drop_succ_cons, List.drop_zero, close, word, String.ofList_toList]

structure FoundAlike (value : JsonValue) (map : GridMap) : Prop where
  mapId : value.member? "map_id".toList = some (.string map.mapId.toList)
  gridSize : value.member? "grid_size".toList = some (.number (map.gridSizeMicrounits / 1000000))
  gridCols : value.member? "grid_cols".toList = some (.number map.gridCols)
  gridRows : value.member? "grid_rows".toList = some (.number map.gridRows)
  startGrid : value.member? "start_grid".toList = some (MapData.pointValue map.startGx map.startGy)
  goalGrid : value.member? "goal_grid".toList = some (MapData.pointValue map.endGx map.endGy)
  cells : value.member? "blocked_bitmap_hex".toList = some (.string (map.blocked.flatMap cellDigits))

theorem MapData.Sound.foundAlike (sound : data.Sound blocked) {files : String → Option Text}
    {path : String} (found : files path = some data.json) {map loaded : GridMap}
    (accepted : loadMapFromFile files path map = (true, loaded)) :
    FoundAlike data.value loaded := by
  have fits : MapFile.isGridSize data.gridSize = true ∧ n * n ≤ 2147483647 := by
    by_contra large
    have refused := load_refused sound found large map
    rw [accepted] at refused
    cases refused
  unfold loadMapFromFile at accepted
  have dim := MapFile.few_columns fits.2
  simp only [found, MapFile.findString_encoding sound, MapFile.findDouble_gridSize sound fits.1,
    fits.1, MapFile.header, MapFile.startPos_json sound fits.1 dim,
    MapFile.endPos_json sound fits.1 dim, mapId_json sound] at accepted
  rw [if_neg (by simp), if_pos trivial, MapFile.loadGrid_json sound fits.1 fits.2] at accepted
  obtain rfl := (Prod.mk.inj accepted).2
  refine ⟨rfl, ?_, ?_, ?_, rfl, rfl, ?_⟩
  · obtain ⟨hundredths, whole, scaled⟩ := microunits_hundredths sound.gridSize
    have size : data.gridSize = (((MapFile.microunits data.gridSize).toNat : Nat) : ℚ) / 1000000 := by
      rw [whole, Int.toNat_natCast, ← scaled]
      exact (mul_div_cancel_right₀ _ (by norm_num)).symm
    exact congrArg (fun size => some (JsonValue.number size)) size
  · have cols : JsonValue.number data.gridCols = .number ((n : Int) : ℚ) := by
      rw [sound.cols, Int.cast_natCast]
    exact congrArg some cols
  · have rows : JsonValue.number data.gridRows = .number ((n : Int) : ℚ) := by
      rw [sound.rows, Int.cast_natCast]
    exact congrArg some rows
  · exact congrArg (fun cells => some (JsonValue.string cells)) sound.hex

end

theorem toString_plain (value : Int) : Plain (toString value).toList := by
  have digits (number : Nat) : Plain (Nat.repr number).toList := by
    rw [Nat.toList_repr]
    intro c inside
    have digit := Nat.isDigit_of_mem_toDigits (by decide) (by decide) inside
    simp only [Char.isDigit, Bool.and_eq_true, decide_eq_true_eq] at digit
    have low : 48 ≤ c.toNat := UInt32.le_iff_toNat_le.mp digit.1
    have high : c.toNat ≤ 57 := UInt32.le_iff_toNat_le.mp digit.2
    refine ⟨by omega, ?_, ?_⟩
    · rintro rfl
      exact absurd low (by decide)
    · rintro rfl
      exact absurd high (by decide)
  cases value with
  | ofNat value => exact digits value
  | negSucc value =>
      change Plain ("-" ++ Nat.repr (value + 1)).toList
      rw [String.toList_append]
      refine List.forall_mem_append.mpr ⟨fun c member => ?_, digits _⟩
      obtain rfl : c = '-' := by simpa using member
      decide

theorem MapParams.mapId_plain (params : MapParams) (seed : Int) (start goal : Room)
    (blocked : BlockedGrid (outDim params.roomDim params.roomSize)
      (outDim params.roomDim params.roomSize)) :
    Plain (params.mapData seed start goal blocked).mapId.toList := by
  change Plain ("maze_" ++ toString seed).toList
  rw [String.toList_append]
  refine List.forall_mem_append.mpr ⟨fun c member => ?_, toString_plain seed⟩
  have listed : c ∈ ['m', 'a', 'z', 'e', '_'] := member
  simp only [List.mem_cons, List.not_mem_nil, or_false] at listed
  rcases listed with rfl | rfl | rfl | rfl | rfl <;> decide

section

variable {random : Int → Rng} {params : MapParams} {now : Int} {seed : Option Int}
  {result : ReachableMap} {data : MapData}

theorem generated_data (returned : generateReachableMap random now seed params = .ok result)
    (written : result.mapData = some data) :
    ∃ start goal rng, start.Inside params.roomDim ∧ goal.Inside params.roomDim ∧
      data = params.mapData result.finalSeed start goal
        (params.cells (random result.finalSeed) start goal rng) := by
  obtain ⟨map, made, -, some_, -, -⟩ := retryMap_made returned written
  obtain ⟨start, goal, rng, selected⟩ := generateMap_selected made some_
  obtain ⟨from_, to_⟩ := MapParams.selectRooms_inside selected
  rw [generateMap_eq selected] at made
  cases made
  exact ⟨start, goal, rng, from_, to_, (Option.some.inj some_).symm⟩

/-- The file that main writes for a map, with whatever difficulty, is JSON, and whoever reads it so
finds the map that the client takes from the same file by its searches for keys. -/
theorem map_readers_agree (cells : 0 < params.gridDim) (size : 0 < params.gridSize)
    (sized : 1 ≤ params.roomSize)
    (returned : generateReachableMap random now seed params = .ok result)
    (written : result.mapData = some data) (difficulty : Int) :
    let data := { data with difficulty }
    JsonReader.loads data.json = some data.value ∧
      ∀ (files : String → Option Text) (path : String) (map loaded : GridMap),
        files path = some data.json → loadMapFromFile files path map = (true, loaded) →
          FoundAlike data.value loaded := by
  obtain ⟨start, goal, rng, from_, to_, rfl⟩ := generated_data returned written
  have sound := @MapParams.mapData_sound params start goal sized
    (MapParams.outGridSize_nonneg cells size) result.finalSeed
    (params.openSafeZones (params.carve (random result.finalSeed)).1 start goal) rng from_ to_
  have plain := params.mapId_plain result.finalSeed start goal
    (params.cells (random result.finalSeed) start goal rng)
  have marked := sound.withDifficulty difficulty
  exact ⟨loads_reads (marked.reads plain),
    fun files path map loaded found accepted => marked.foundAlike found accepted⟩

theorem generated_accepted (cells : 0 < params.gridDim) (size : 0 < params.gridSize)
    (sized : 1 ≤ params.roomSize)
    (returned : generateReachableMap random now seed params = .ok result)
    (written : result.mapData = some data)
    (fits : ∀ start goal : Room, start.Inside params.roomDim → goal.Inside params.roomDim →
      params.Fits start goal) (difficulty : Int) {files : String → Option Text} {path : String}
    (found : files path = some { data with difficulty }.json) (map : GridMap) :
    ∃ loaded, loadMapFromFile files path map = (true, loaded) := by
  obtain ⟨start, goal, rng, from_, to_, rfl⟩ := generated_data returned written
  have sound := @MapParams.mapData_sound params start goal sized
    (MapParams.outGridSize_nonneg cells size) result.finalSeed
    (params.openSafeZones (params.carve (random result.finalSeed)).1 start goal) rng from_ to_
  have fits := fits start goal from_ to_
  obtain ⟨loaded, accepted, -⟩ := load_json (sound.withDifficulty difficulty) found
    ((isGridSize_iff sound.gridSize).mpr ⟨fits.positive, fits.microunits⟩) fits.cells map
  exact ⟨loaded, accepted⟩

end

theorem map_readers_agree_default :
    ∃ result data loaded,
      generateReachableMap (fun _ => ⟨fun _ => 0, 0⟩) 0 (some 7) (defaultParams 40 500) = .ok result ∧
        result.mapData = some data ∧
        loadMapFromFile (fun _ => some { data with difficulty := 3 }.json) "map.json" {} =
          (true, loaded) ∧
        JsonReader.loads { data with difficulty := 3 }.json =
          some { data with difficulty := 3 }.value ∧
        FoundAlike { data with difficulty := 3 }.value loaded := by
  obtain ⟨map, -, some_, -, returned⟩ := @generateReachableMap_default (fun _ => ⟨fun _ => 0, 0⟩)
    (defaultParams 40 500) (.inl (by decide)) (by decide) rfl 0 (some 7)
  obtain ⟨data, written⟩ := Option.isSome_iff_exists.mp some_
  obtain ⟨read, alike⟩ := map_readers_agree (by decide) (by decide) (by decide) returned written 3
  obtain ⟨loaded, accepted⟩ := @generated_accepted _ _ _ _ _ _ (by decide) (by decide) (by decide)
    returned written (fun _ _ from_ to_ => MapParams.fits_of_large (by decide) (by decide +kernel)
      (by decide +kernel) (by decide +kernel) from_ to_) 3 (fun _ => some _) "map.json" rfl {}
  exact ⟨_, data, loaded, returned, written, accepted, read, alike _ _ _ _ rfl accepted⟩

end MazeClient
