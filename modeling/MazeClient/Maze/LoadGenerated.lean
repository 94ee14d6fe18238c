import MazeClient.Generator.WallSegments
import MazeClient.Maze.Bitmap
import MazeClient.Maze.MapReading
import MazeClient.Maze.ShortestSteps

set_option autoImplicit false

namespace MazeClient

open MapFile Rounding TextSearch

theorem Hundredths.number {x : ℚ} (two : Hundredths x) : Number (Json.float x) x :=
  number_float two.choose_spec

theorem Hundredths.fitsDouble {x : ℚ} (two : Hundredths x) (most : x ≤ 10 ^ 15) : FitsDouble x := by
  obtain ⟨hundredths, equal⟩ := two
  obtain rfl | some_ := Nat.eq_zero_or_pos hundredths
  · obtain rfl : x = (0 : Int) := by
      push_cast at equal ⊢
      linarith
    exact fitsDouble_intCast (by decide)
  · have least : (1 : ℚ) ≤ hundredths := by exact_mod_cast some_
    exact fitsDouble_of_le (by linarith) most

-- The coordinates that are written with two decimals.
def MapData.coordinates (data : MapData) : List ℚ :=
  [data.startPos.x, data.startPos.y, data.endPos.x, data.endPos.y] ++
    data.walls.flatMap WallSegment.coordinates

/-- What a generated map holds, as far as its reader depends on it. -/
structure MapData.Sound {n : Nat} (data : MapData) (blocked : BlockedGrid n n) : Prop where
  mapId : data.mapId.toList.head? = some 'm'
  plainId : doubleQuote ∉ data.mapId.toList
  cols : data.gridCols = n
  rows : data.gridRows = n
  gridSize : Hundredths data.gridSize
  startPos : Hundredths data.startPos.x ∧ Hundredths data.startPos.y
  endPos : Hundredths data.endPos.x ∧ Hundredths data.endPos.y
  startGrid : Grid.Inside n n data.startGrid
  goalGrid : Grid.Inside n n data.goalGrid
  bitmap : data.blockedBitmap = blockedBitmapBytes blocked
  walls : data.walls ≠ []
  drawn : ∀ segment ∈ data.walls, segment.Drawn
  reach : ∀ x ∈ data.coordinates, x ≤ (n + 1) * (data.gridSize + 1)

section

variable {n : Nat} {data : MapData} {blocked : BlockedGrid n n}

theorem MapData.Sound.positive (sound : data.Sound blocked) : 0 < n := by
  have := sound.startGrid.1
  omega

theorem MapData.Sound.hex (sound : data.Sound blocked) :
    MapData.hex data.blockedBitmap = blocked.cells.flatMap cellDigits := by
  rw [sound.bitmap, blockedBitmapBytes_eq, hex_cells]

end

namespace MapFile

def Sought (key : String) : Prop :=
  IsKey key ∧
    key ∉ ["x_min", "x_max", "y_min", "y_max", "x", "y", "x1", "y1", "x2", "y2", "thickness"] ∧
    key.toList.head? ∉ [some 'm', some 'r', some '0']

instance (key : String) : Decidable (Sought key) := inferInstanceAs (Decidable (_ ∧ _ ∧ _))

theorem numbers_point {x y : Text} {a b : ℚ} (first : Number x a) (second : Number y b) :
    Numbers [("x", x), ("y", y)] where
  keys := by
    simp only [List.forall_mem_cons]
    decide
  values := by simpa using ⟨⟨a, first⟩, b, second⟩
  distinct := show ["x", "y"].Nodup by decide

theorem numbers_bounds (size : Int) : Numbers [("x_min", Json.int 0), ("x_max", Json.int size),
    ("y_min", Json.int 0), ("y_max", Json.int size)] where
  keys := by
    simp only [List.forall_mem_cons]
    decide
  values := by
    simp only [List.forall_mem_cons]
    exact ⟨⟨_, number_int 0⟩, ⟨_, number_int size⟩, ⟨_, number_int 0⟩, ⟨_, number_int size⟩, by simp⟩
  distinct := show ["x_min", "x_max", "y_min", "y_max"].Nodup by decide

theorem numbers_wall {segment : WallSegment} (drawn : segment.Drawn) : Numbers segment.fields where
  keys := by
    simp only [WallSegment.fields, List.forall_mem_cons]
    decide
  values := by
    simp only [WallSegment.fields, List.forall_mem_cons]
    exact ⟨⟨_, drawn.x1.number⟩, ⟨_, drawn.y1.number⟩, ⟨_, drawn.x2.number⟩, ⟨_, drawn.y2.number⟩,
      ⟨_, number_int _⟩, by simp⟩
  distinct := show ["x1", "y1", "x2", "y2", "thickness"].Nodup by decide

section Entries

variable {n : Nat} {data : MapData} {blocked : BlockedGrid n n} {key : String} {value : Text}

theorem Sought.passed_numbers {fields : List (String × Text)} {level : Nat} (sought : Sought key)
    (numbers : Numbers fields)
    (inner : fields.map Prod.fst ⊆
      ["x_min", "x_max", "y_min", "y_max", "x", "y", "x1", "y1", "x2", "y2", "thickness"]) :
    Passed key (Json.object level fields) := by
  refine numbers.passed sought.1 fun entry inside => ?_
  rintro rfl
  exact sought.2.1 (inner (List.mem_map_of_mem inside))

theorem Sought.passed_quoted {word : Text} {c : Char} (sought : Sought key)
    (plain : doubleQuote ∉ word) (head : word.head? = some c) (listed : c = 'm' ∨ c = 'r' ∨ c = '0') :
    Passed key (quoted doubleQuote word) := by
  refine MapFile.passed_quoted sought.1 plain fun same => sought.2.2 ?_
  rw [same, head]
  rcases listed with rfl | rfl | rfl <;> decide

theorem cellDigits_plain (cells : List Bool) : doubleQuote ∉ cells.flatMap cellDigits := by
  simp only [List.mem_flatMap, not_exists, not_and]
  rintro (_ | _) - <;> decide

theorem cellDigits_head {cells : List Bool} (some_ : cells ≠ []) :
    (cells.flatMap cellDigits).head? = some '0' := by
  cases cells with
  | nil => exact (some_ rfl).elim
  | cons cell cells => rfl

theorem passed_walls (sought : Sought key) {walls : List WallSegment}
    (drawn : ∀ segment ∈ walls, segment.Drawn) :
    Passed key (Json.array 1 (walls.map WallSegment.json)) := by
  refine passed_container (by decide) (by decide) fun part inside => ?_
  obtain ⟨segment, member, rfl⟩ := List.mem_map.mp inside
  refine sought.passed_numbers (numbers_wall (drawn segment member)) ?_
  exact show ["x1", "y1", "x2", "y2", "thickness"] ⊆ _ by decide

theorem passed_point (sought : Sought key) {x y : Text} {a b : ℚ} (first : Number x a)
    (second : Number y b) : Passed key (MapData.point x y) :=
  sought.passed_numbers (numbers_point first second) (show ["x", "y"] ⊆ _ by decide)

theorem passed_entries (sought : Sought key) (sound : data.Sound blocked) :
    ∀ entry ∈ data.entries, Passed key entry.2 := by
  have cells : blocked.cells ≠ [] := by
    have positive := Nat.mul_pos sound.positive sound.positive
    exact List.ne_nil_of_length_pos (by rw [BlockedGrid.length_cells]; exact positive)
  have bounds : Passed key (Json.object 1 [("x_min", Json.int 0), ("x_max", Json.int data.mapSize),
      ("y_min", Json.int 0), ("y_max", Json.int data.mapSize)]) :=
    sought.passed_numbers (numbers_bounds _) (show ["x_min", "x_max", "y_min", "y_max"] ⊆ _ by decide)
  have encoding : Passed key (Json.string "row-major-u8-0-open-1-blocked") :=
    sought.passed_quoted (by decide) (show _ = some 'r' by decide) (.inr (.inl rfl))
  have hex : Passed key (quoted doubleQuote (MapData.hex data.blockedBitmap)) := by
    rw [sound.hex]
    exact sought.passed_quoted (cellDigits_plain _) (cellDigits_head cells) (.inr (.inr rfl))
  simp only [MapData.entries, MapData.fields, List.cons_append, List.nil_append,
    List.forall_mem_cons]
  exact ⟨sought.passed_quoted sound.plainId sound.mapId (.inl rfl), (number_int _).passed,
    (number_int _).passed, (number_int _).passed, (number_int _).passed, sound.gridSize.number.passed,
    (number_int _).passed, (number_int _).passed, bounds,
    passed_point sought sound.startPos.1.number sound.startPos.2.number,
    passed_point sought sound.endPos.1.number sound.endPos.2.number,
    passed_point sought (number_int _) (number_int _),
    passed_point sought (number_int _) (number_int _), encoding, hex, (number_int _).passed,
    passed_walls sought sound.drawn, by simp⟩

def keyNames : List String :=
  ["map_id", "seed", "difficulty", "grid_cols", "grid_rows", "grid_size", "room_size", "room_dim",
    "bounds", "start_pos", "end_pos", "start_grid", "goal_grid", "blocked_bitmap_encoding",
    "blocked_bitmap_hex", "wall_count", "walls"]

theorem keyNames_isKey : ∀ name ∈ keyNames, IsKey name := by decide

theorem written_json (sought : Sought key) (sound : data.Sound blocked)
    (member : (key, value) ∈ data.entries) : Written key value data.json := by
  have names : data.entries.map Prod.fst = keyNames := rfl
  refine written member ?_ (fun entry inside => ?_) (passed_entries sought sound)
  · rw [names]
    decide
  · refine keyNames_isKey _ ?_
    rw [← names]
    exact List.mem_map_of_mem inside

theorem gridSize_lt {gridSize : ℚ} (sized : isGridSize gridSize = true) : gridSize < 4295 := by
  have fits : microunits gridSize ≤ 4294967295 := of_decide_eq_true (Bool.and_eq_true_iff.mp sized).2
  have floor := Int.lt_floor_add_one (gridSize * 1000000 + 1 / 2)
  have most : ((microunits gridSize : Int) : ℚ) ≤ 4294967295 := by exact_mod_cast fits
  unfold microunits at most
  linarith

theorem findNumber_int {text : Text} {number : Int} (found : findDouble text key = number)
    (small : number.natAbs < 16777216) : findNumber text key = number := by
  rw [findNumber, found, toDouble_intCast small, toFloat_intCast small]

theorem findNumber_nonneg {text : Text} {x : ℚ} (found : findDouble text key = x)
    (nonneg : 0 ≤ x) : 0 ≤ findNumber text key := by
  rw [findNumber, found]
  exact toFloat_nonneg (toDouble_nonneg nonneg)

section Readers

variable (sound : data.Sound blocked)
include sound

theorem findString_encoding : findString data.json "blocked_bitmap_encoding" = encoding.toList :=
  findString_written (written_json (by decide) sound (by simp [MapData.entries, MapData.fields]; rfl))
    (by decide)

theorem findDouble_json (sought : Sought key) {x : ℚ} (number : Number value x)
    (member : (key, value) ∈ data.entries) :
    findDouble data.json key = if FitsDouble x then x else -1 :=
  findDouble_written (written_json sought sound member) number

theorem findDouble_gridSize (sized : isGridSize data.gridSize = true) :
    findDouble data.json "grid_size" = data.gridSize := by
  rw [findDouble_json sound (by decide) sound.gridSize.number
    (by simp [MapData.entries, MapData.fields])]
  exact if_pos (sound.gridSize.fitsDouble ((gridSize_lt sized).le.trans (by norm_num)))

-- A size that is too large for a double is none either way.
theorem isGridSize_json :
    isGridSize (findDouble data.json "grid_size") = isGridSize data.gridSize := by
  cases sized : isGridSize data.gridSize with
  | true => rw [findDouble_gridSize sound sized, sized]
  | false =>
      rw [findDouble_json sound (by decide) sound.gridSize.number
        (by simp [MapData.entries, MapData.fields])]
      split
      · exact sized
      · decide

theorem fitsDouble_coordinate (sized : isGridSize data.gridSize = true) (small : n < 16777216)
    {x : ℚ} (two : Hundredths x) (member : x ∈ data.coordinates) : FitsDouble x := by
  have size := gridSize_lt sized
  have nonneg := sound.gridSize.nonneg
  have count : (n : ℚ) + 1 ≤ 16777216 := by exact_mod_cast small
  refine two.fitsDouble ((sound.reach x member).trans ?_)
  calc ((n : ℚ) + 1) * (data.gridSize + 1) ≤ 16777216 * 4296 :=
        mul_le_mul count (by linarith) (by linarith) (by norm_num)
    _ ≤ 10 ^ 15 := by norm_num

theorem findNumber_json (sought : Sought key) {number : Int} (small : number.natAbs < 16777216)
    (member : (key, Json.int number) ∈ data.entries) : findNumber data.json key = number := by
  refine findNumber_int ?_ small
  rw [findDouble_json sound sought (number_int number) member, if_pos (fitsDouble_intCast small)]

theorem findNumber_cols (small : n < 16777216) : findNumber data.json "grid_cols" = (n : Int) := by
  rw [← sound.cols] at small ⊢
  exact findNumber_json sound (by decide) (by omega) (by simp [MapData.entries, MapData.fields])

theorem findNumber_rows (small : n < 16777216) : findNumber data.json "grid_rows" = (n : Int) := by
  rw [← sound.rows] at small ⊢
  exact findNumber_json sound (by decide) (by omega) (by simp [MapData.entries, MapData.fields])

theorem findString_bitmap :
    findString data.json "blocked_bitmap_hex" = blocked.cells.flatMap cellDigits := by
  rw [← sound.hex]
  refine findString_written
    (written_json (by decide) sound (by simp [MapData.entries, MapData.fields])) ?_
  rw [sound.hex]
  exact cellDigits_plain _

end Readers

theorem read_point (sound : data.Sound blocked) (sought : Sought key) {x y : Text} {a b : ℚ}
    (first : Number x a) (second : Number y b) (fits : FitsDouble a) (fits' : FitsDouble b)
    (member : (key, MapData.point x y) ∈ data.entries) :
    ∃ block, blockOf data.json key = some block ∧ findDouble block "x" = a ∧
      findDouble block "y" = b := by
  have numbers := numbers_point first second
  exact ⟨_, blockOf_written sought.1 (written_json sought sound member)
    (numbers.block (by simp) 1), numbers.findDouble (by simp) first fits,
    numbers.findDouble (by simp) second fits'⟩

theorem read_position (sound : data.Sound blocked) (sought : Sought key) {position : Point}
    (two : Hundredths position.x ∧ Hundredths position.y)
    (fits : FitsDouble position.x ∧ FitsDouble position.y)
    (member : (key, MapData.point (Json.float position.x) (Json.float position.y)) ∈ data.entries) :
    ∃ block, blockOf data.json key = some block ∧ findDouble block "x" = position.x ∧
      findDouble block "y" = position.y ∧ 0 ≤ position.x ∧ 0 ≤ position.y := by
  obtain ⟨block, found, x, y⟩ :=
    read_point sound sought two.1.number two.2.number fits.1 fits.2 member
  exact ⟨block, found, x, y, two.1.nonneg, two.2.nonneg⟩

theorem startPos_json (sound : data.Sound blocked) (sized : isGridSize data.gridSize = true)
    (small : n < 16777216) (map : GridMap) :
    startPos data.json map = { map with startX := data.startPos.x, startY := data.startPos.y } := by
  have fits {x : ℚ} := @fitsDouble_coordinate _ _ _ sound sized small x
  obtain ⟨block, found, x, y, nonneg⟩ := @read_position _ _ _ "start_pos" sound (by decide) _
    sound.startPos ⟨fits sound.startPos.1 (by simp [MapData.coordinates]),
      fits sound.startPos.2 (by simp [MapData.coordinates])⟩
    (by simp [MapData.entries, MapData.fields])
  unfold startPos
  simp only [found, x, y, if_pos nonneg]

theorem endPos_json (sound : data.Sound blocked) (sized : isGridSize data.gridSize = true)
    (small : n < 16777216) (map : GridMap) :
    endPos data.json map = { map with endX := data.endPos.x, endY := data.endPos.y } := by
  have fits {x : ℚ} := @fitsDouble_coordinate _ _ _ sound sized small x
  obtain ⟨block, found, x, y, nonneg⟩ := @read_position _ _ _ "end_pos" sound (by decide) _
    sound.endPos ⟨fits sound.endPos.1 (by simp [MapData.coordinates]),
      fits sound.endPos.2 (by simp [MapData.coordinates])⟩
    (by simp [MapData.entries, MapData.fields])
  unfold endPos
  simp only [found, x, y, if_pos nonneg]

theorem toInt_small {value : Int} (low : -2147483648 ≤ value) (high : value ≤ 2147483647) :
    toInt value = value := by
  have whole : (value : ℚ).num.tdiv (value : ℚ).den = value := by simp
  simp only [toInt, whole]
  exact if_pos ⟨low, high⟩

theorem readGridPoint_json (sound : data.Sound blocked) (sought : Sought key) {cell : Int × Int}
    (inside : Grid.Inside n n cell) (small : n < 16777216)
    (member : (key, MapData.point (Json.int cell.1) (Json.int cell.2)) ∈ data.entries) :
    readGridPoint data.json key = some cell := by
  obtain ⟨⟨left, right⟩, bottom, top⟩ := inside
  obtain ⟨block, found, x, y⟩ := read_point sound sought (number_int _) (number_int _)
    (fitsDouble_intCast (by omega)) (fitsDouble_intCast (by omega)) member
  unfold readGridPoint
  rw [found, Option.bind_eq_bind, Option.bind_some, findNumber_int x (by omega),
    findNumber_int y (by omega), toInt_small (by omega) (by omega),
    toInt_small (by omega) (by omega)]
  rfl

theorem startGrid_json (sound : data.Sound blocked) (small : n < 16777216) :
    readGridPoint data.json "start_grid" = some data.startGrid :=
  readGridPoint_json sound (by decide) sound.startGrid small (by simp [MapData.entries, MapData.fields])

theorem goalGrid_json (sound : data.Sound blocked) (small : n < 16777216) :
    readGridPoint data.json "goal_grid" = some data.goalGrid :=
  readGridPoint_json sound (by decide) sound.goalGrid small (by simp [MapData.entries, MapData.fields])

-- The first wall counts, whatever follows it.
theorem countWalls_first {segment : WallSegment} (drawn : segment.Drawn) {front : Text}
    (fits : ∀ x ∈ segment.coordinates, FitsDouble x) (clear : '{' ∉ front) (clear' : ']' ∉ front)
    {fuel : Nat} (some_ : 0 < fuel) (rest : Text) :
    0 < countWalls fuel (front ++ (segment.json ++ rest)) := by
  obtain ⟨fuel, rfl⟩ := Nat.exists_eq_add_of_lt some_
  have numbers := numbers_wall drawn
  have block : Block segment.json := numbers.block (by simp [WallSegment.fields]) 2
  have within : ((find [']'] (front ++ (segment.json ++ rest))).any fun close =>
      (segment.json ++ rest).length < close.length) = false := by
    rw [find_append (clear_of_not_mem clear')]
    cases found : find [']'] (segment.json ++ rest) with
    | none => rfl
    | some close => simpa using (find_suffix found).length_le
  have coordinates : (["x1", "y1", "x2", "y2"].all fun key =>
      decide (0 ≤ findNumber segment.json key)) = true := by
    simp only [WallSegment.coordinates, List.forall_mem_cons] at fits
    have coordinate {key : String} {x : ℚ} (two : Hundredths x) (fits : FitsDouble x)
        (member : (key, Json.float x) ∈ segment.fields) : 0 ≤ findNumber segment.json key :=
      findNumber_nonneg (numbers.findDouble member two.number fits) two.nonneg
    have x1 := @coordinate "x1" _ drawn.x1 fits.1 (by simp [WallSegment.fields])
    have y1 := @coordinate "y1" _ drawn.y1 fits.2.1 (by simp [WallSegment.fields])
    have x2 := @coordinate "x2" _ drawn.x2 fits.2.2.1 (by simp [WallSegment.fields])
    have y2 := @coordinate "y2" _ drawn.y2 fits.2.2.2.1 (by simp [WallSegment.fields])
    simp [x1, y1, x2, y2]
  rw [Nat.zero_add, countWalls, block.start clear]
  simp only [within, block.close, block.takeWhile, coordinates]
  simp

theorem wallCount_json (sound : data.Sound blocked) (sized : isGridSize data.gridSize = true)
    (small : n < 16777216) :
    ∃ walls, wallCount data.json = some walls ∧ 0 < walls := by
  have sought : Sought "walls" := by decide
  obtain ⟨next, rest, -, found⟩ :=
    written_json sought sound (by simp [MapData.entries, MapData.fields]; rfl)
  obtain ⟨segment, others, shape⟩ := List.exists_cons_of_ne_nil sound.walls
  have drawn : segment.Drawn := sound.drawn segment (by simp [shape])
  have fits : ∀ x ∈ segment.coordinates, FitsDouble x := by
    intro x inside
    refine fitsDouble_coordinate sound sized small (drawn.coordinates x inside) ?_
    simp [MapData.coordinates, shape, inside]
  have opened : ∃ tail, Json.array 1 (data.walls.map WallSegment.json) =
      '[' :: '\n' :: Json.pad 2 ++ (segment.json ++ tail) := by
    rw [shape, Json.array, Json.container, if_neg (by simp), List.map_cons]
    cases others with
    | nil => exact ⟨_, by rw [List.map_nil, lines_single]; rfl⟩
    | cons other others => exact ⟨_, by rw [lines_cons (by simp)]; rfl⟩
  obtain ⟨tail, opened⟩ := opened
  have array : find ['['] (Json.field "walls" (Json.array 1 (data.walls.map WallSegment.json)) ++
      next :: rest) = some ('[' :: '\n' :: Json.pad 2 ++ (segment.json ++ (tail ++ next :: rest))) := by
    have parted : Json.field "walls" (Json.array 1 (data.walls.map WallSegment.json)) ++ next :: rest =
        (Json.string "walls" ++ [':', ' ']) ++
          (['['] ++ ('\n' :: Json.pad 2 ++ (segment.json ++ (tail ++ next :: rest)))) := by
      rw [opened]
      simp [Json.field]
    rw [parted, find_append (clear_of_not_mem (by decide))]
    exact find_here _ _
  have some_ : 0 < data.json.length :=
    List.length_pos_iff.mpr (by simp [MapData.json, Json.object, Json.container, MapData.entries])
  have clear : '{' ∉ '[' :: '\n' :: Json.pad 2 := by decide
  have counted := countWalls_first drawn fits clear (by decide) some_ (tail ++ next :: rest)
  refine ⟨_, ?_, counted⟩
  unfold wallCount
  rw [found, Option.bind_eq_bind, Option.bind_some, array]
  rfl

theorem mapId_eq (content : Text) (map : GridMap) :
    mapId content map = { map with mapId := (mapId content map).mapId } := by
  unfold mapId
  repeat' split
  all_goals rfl

theorem bounds_eq (content : Text) (map : GridMap) :
    bounds content map = { map with
      mapWidth := (bounds content map).mapWidth
      mapHeight := (bounds content map).mapHeight } := by
  unfold bounds
  dsimp only
  repeat' split
  all_goals rfl

theorem few_columns {n : Nat} (small : n * n ≤ 2147483647) : n < 16777216 := by
  by_contra large
  have square := Nat.mul_le_mul (Nat.le_of_not_lt large) (Nat.le_of_not_lt large)
  omega

theorem loadGrid_json (sound : data.Sound blocked) (sized : isGridSize data.gridSize = true)
    (small : n * n ≤ 2147483647) (map : GridMap) :
    loadGrid data.json map = (true, { map with
      mapWidth := (bounds data.json map).mapWidth
      mapHeight := (bounds data.json map).mapHeight
      gridCols := n
      gridRows := n
      startGx := data.startGrid.1
      startGy := data.startGrid.2
      endGx := data.goalGrid.1
      endGy := data.goalGrid.2
      blocked := blocked.cells
      hasAuthoritativeGrid := true }) := by
  have positive := sound.positive
  have dim := few_columns small
  have cols : toInt (n : Int) = n := toInt_small (by omega) (by omega)
  have product : wrap ((n : Int) * n) = (n * n : Nat) := by
    rw [← Int.natCast_mul]
    exact wrap_eq (by omega) (by omega)
  have accepted : ¬ ((n : Int) ≤ 0 ∨ (n : Int) ≤ 0 ∨ ((n * n : Nat) : Int) < 0) := by omega
  have start := startGrid_json sound dim
  have goal := goalGrid_json sound dim
  have startIn : ¬ (data.startGrid.1 < 0 ∨ data.startGrid.2 < 0) := by
    have := sound.startGrid
    unfold Grid.Inside at this
    omega
  have goalIn : ¬ (data.goalGrid.1 < 0 ∨ data.goalGrid.2 < 0) := by
    have := sound.goalGrid
    unfold Grid.Inside at this
    omega
  obtain ⟨walls, counted, some_⟩ := wallCount_json sound sized dim
  have size : ¬ (blocked.cells.flatMap cellDigits).length ≠ n * n * 2 := by
    rw [length_flatMap_cellDigits, BlockedGrid.length_cells]
    simp
  unfold loadGrid
  rw [findNumber_cols sound dim, findNumber_rows sound dim, cols]
  simp only [product, if_neg accepted, start, if_neg startIn, goal, if_neg goalIn, findString_bitmap sound,
    Int.toNat_natCast, List.length_replicate, if_neg size, readBitmap_cellDigits, counted, some_]
  rw [bounds_eq]
  rfl

-- Whatever size is read of it, the bitmap is longer than an int.
theorem loadGrid_refused (sound : data.Sound blocked) (large : ¬ n * n ≤ 2147483647)
    (map : GridMap) : (loadGrid data.json map).1 = false := by
  have size (cells : Int) : (blocked.cells.flatMap cellDigits).length ≠ (wrap cells).toNat * 2 := by
    rw [length_flatMap_cellDigits, BlockedGrid.length_cells]
    have bound := wrap_le cells
    omega
  unfold loadGrid
  simp only [findString_bitmap sound, List.length_replicate, if_pos (size _)]
  repeat' split
  all_goals rfl

end Entries

end MapFile

end MazeClient
