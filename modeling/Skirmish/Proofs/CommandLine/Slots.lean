import Mathlib.Order.Bounds.Basic
import Mathlib.Tactic.SplitIfs
import Skirmish.CommandLine.Loading

namespace Skirmish

namespace SensorSetting

-- A text of four words that are all numbers.
def FourNumbers (text : String) : Prop :=
  ∃ range angle width onTurret, (Text.words text.toList).map Text.double? =
    [some range, some angle, some width, some onTurret]

theorem numbers_cons {word : List Char} {words : List (List Char)} {xs : List Float} :
    numbers (word :: words) = .ok xs ↔
      ∃ x rest, Text.double? word = some x ∧ numbers words = .ok rest ∧ xs = x :: rest := by
  rw [numbers]
  cases Text.double? word with
  | none => simp
  | some x => cases numbers words <;> simp [Except.map, eq_comm]

theorem numbers_eq_ok_iff {words : List (List Char)} {xs : List Float} :
    numbers words = .ok xs ↔ words.map Text.double? = xs.map some := by
  induction words generalizing xs with
  | nil => cases xs <;> simp [numbers]
  | cons word words ih =>
      rw [numbers_cons, List.map_cons]
      constructor
      · rintro ⟨x, rest, hword, hrest, rfl⟩
        rw [hword, ih.mp hrest, List.map_cons]
      · intro h
        obtain ⟨x, rest, rfl, hword, hrest⟩ := List.map_eq_cons_iff.mp h.symm
        exact ⟨x, rest, hword.symm, ih.mpr hrest.symm, rfl⟩

-- A sensor is read from four numbers, of which the last tells whether it is 0, and from nothing
-- else.
theorem read_eq_ok_iff {text : String} {sensor : SensorSetting Float} :
    read text = .ok sensor ↔
      ∃ range angle width onTurret, (Text.words text.toList).map Text.double? =
        [some range, some angle, some width, some onTurret] ∧
        sensor = ⟨range, angle, width, !(onTurret == Float.ofNat 0)⟩ := by
  constructor
  · intro h
    unfold read at h
    dsimp only at h
    split at h
    · split at h
      · next range angle width onTurret hnumbers =>
          exact ⟨range, angle, width, onTurret, numbers_eq_ok_iff.mp hnumbers,
            (Except.ok.inj h).symm⟩
      · contradiction
      · contradiction
    · contradiction
  · rintro ⟨range, angle, width, onTurret, h, rfl⟩
    have hlength := congrArg List.length h
    rw [List.length_map] at hlength
    have hnumbers : numbers (Text.words text.toList) = .ok [range, angle, width, onTurret] :=
      numbers_eq_ok_iff.mpr h
    simp [read, hlength, hnumbers]

theorem exists_read_iff {text : String} :
    (∃ sensor, read text = .ok sensor) ↔ FourNumbers text := by
  constructor
  · rintro ⟨sensor, h⟩
    obtain ⟨range, angle, width, onTurret, hwords, -⟩ := read_eq_ok_iff.mp h
    exact ⟨range, angle, width, onTurret, hwords⟩
  · rintro ⟨range, angle, width, onTurret, hwords⟩
    exact ⟨_, read_eq_ok_iff.mpr ⟨range, angle, width, onTurret, hwords, rfl⟩⟩

instance (text : String) : Decidable (FourNumbers text) :=
  decidable_of_iff ((read text).isOk = true) (by
    rw [← exists_read_iff]
    cases read text <;> simp [Except.isOk, Except.toBool])

end SensorSetting

namespace Loading

variable {files : Files} {path : String} {sensors : List (SensorSetting Float)}

-- The numbers of the sensor files that there are.
def present (files : Files) (path : String) : Set Nat :=
  {k | k < Tank.maxSensors ∧ files.holds (sensorFile path k) = true}

-- The numbers of those that do not hold four numbers.
def faulty (files : Files) (path : String) : Set Nat :=
  {k | k < Tank.maxSensors ∧ ∃ text, files (sensorFile path k) = .file text ∧
    ¬SensorSetting.FourNumbers text}

-- No sensor file fails to be read.
def Readable (files : Files) (path : String) : Prop :=
  ∀ k ∈ present files path, ∃ text, files.read (sensorFile path k) = .ok text

-- A file that a sensor can be read from.
def Sound (files : Files) (path : String) (k : Nat) : Prop :=
  ∃ text sensor, files (sensorFile path k) = .file text ∧ SensorSetting.read text = .ok sensor

-- A slot has the sensor of its file, or is empty if there is none.
structure Fills (files : Files) (path : String) (k : Nat) (sensor : SensorSetting Float) : Prop where
  ofFile {text : String} (h : files (sensorFile path k) = .file text) :
    SensorSetting.read text = .ok sensor
  ofNone (h : files.holds (sensorFile path k) = false) : sensor = .emptySlot

-- Sensors up to the last file below a bound, each in its slot.
structure Slotted (files : Files) (path : String) (bound : Nat)
    (sensors : List (SensorSetting Float)) : Prop where
  fills {k : Nat} {sensor : SensorSetting Float} (h : sensors[k]? = some sensor) :
    Fills files path k sensor
  beyond {k : Nat} (hk : k < bound) (hlength : sensors.length ≤ k) :
    files.holds (sensorFile path k) = false
  last {k : Nat} (hlength : sensors.length = k + 1) :
    k < bound ∧ files.holds (sensorFile path k) = true

theorem holds_of_file {text : String} (h : files path = .file text) : files.holds path = true := by
  simp [Files.holds, h]

theorem file_of_read {text : String} (h : files.read path = .ok text) : files path = .file text := by
  cases hfound : files path <;> simp_all [Files.read]

theorem readable_of_ne_directory (h : ∀ k < Tank.maxSensors, files (sensorFile path k) ≠ .directory) :
    Readable files path := by
  rintro k ⟨hk, hholds⟩
  cases hfound : files (sensorFile path k) with
  | file text => exact ⟨text, by rw [Files.read, hfound]⟩
  | directory => exact absurd hfound (h k hk)
  | nothing fault => simp [Files.holds, hfound] at hholds

theorem slotted_nil : Slotted files path 0 [] where
  fills h := by contradiction
  beyond hk := absurd hk (Nat.not_lt_zero _)
  last h := by contradiction

theorem Slotted.length_le {bound : Nat} (h : Slotted files path bound sensors) :
    sensors.length ≤ bound := by
  cases hlength : sensors.length with
  | zero => exact Nat.zero_le bound
  | succ k => exact (h.last hlength).1

theorem Slotted.skip {bound : Nat} (h : Slotted files path bound sensors)
    (hnone : files.holds (sensorFile path bound) = false) :
    Slotted files path (bound + 1) sensors where
  fills := h.fills
  beyond {k} hk hlength := by
    rcases Nat.lt_succ_iff_lt_or_eq.mp hk with hless | rfl
    · exact h.beyond hless hlength
    · exact hnone
  last hlength := (h.last hlength).imp_left Nat.lt_succ_of_lt

theorem length_addSlot {bound : Nat} (h : sensors.length ≤ bound) (sensor : SensorSetting Float) :
    (addSlot sensors bound sensor).length = bound + 1 := by
  simp only [addSlot, List.length_append, List.length_replicate, List.length_singleton]
  omega

theorem getElem?_addSlot {bound : Nat} (h : sensors.length ≤ bound)
    (sensor : SensorSetting Float) (k : Nat) :
    (addSlot sensors bound sensor)[k]? =
      if k < sensors.length then sensors[k]?
      else if k < bound then some .emptySlot
      else if k = bound then some sensor
      else none := by
  rw [addSlot, List.append_assoc, List.getElem?_append]
  split_ifs with hearlier hmissing hnew
  · rfl
  · rw [List.getElem?_append_left (by rw [List.length_replicate]; omega), List.getElem?_replicate,
      if_pos (by omega)]
  · obtain rfl := hnew
    rw [List.getElem?_append_right (by simp), List.length_replicate, Nat.sub_self]
    rfl
  · exact List.getElem?_eq_none (by simp; omega)

theorem fills_emptySlot {k : Nat} (h : files.holds (sensorFile path k) = false) :
    Fills files path k .emptySlot where
  ofFile hfile := by
    rw [holds_of_file hfile] at h
    contradiction
  ofNone _ := rfl

theorem fills_read {k : Nat} {text : String} (h : files (sensorFile path k) = .file text)
    {sensor : SensorSetting Float} (hread : SensorSetting.read text = .ok sensor) :
    Fills files path k sensor where
  ofFile hfile := by
    obtain rfl : text = _ := Found.file.inj (h.symm.trans hfile)
    exact hread
  ofNone hnone := by
    rw [holds_of_file h] at hnone
    contradiction

-- The slots between the last sensor and the new one are those of missing files.
theorem Slotted.add {bound : Nat} (h : Slotted files path bound sensors) {text : String}
    (hfile : files (sensorFile path bound) = .file text) {sensor : SensorSetting Float}
    (hread : SensorSetting.read text = .ok sensor) :
    Slotted files path (bound + 1) (addSlot sensors bound sensor) where
  fills {k filled} hk := by
    rw [getElem?_addSlot h.length_le] at hk
    split_ifs at hk with hearlier hmissing hnew
    · exact h.fills hk
    · obtain rfl := Option.some.inj hk
      exact fills_emptySlot (h.beyond hmissing (Nat.not_lt.mp hearlier))
    · obtain rfl := Option.some.inj hk
      exact hnew ▸ fills_read hfile hread
  beyond hk hlength := by
    rw [length_addSlot h.length_le] at hlength
    omega
  last {k} hlength := by
    rw [length_addSlot h.length_le] at hlength
    obtain rfl : bound = k := by omega
    exact ⟨Nat.lt_succ_self bound, holds_of_file hfile⟩

theorem Slotted.exists_fills {bound k : Nat} (h : Slotted files path bound sensors)
    (hk : k < sensors.length) : ∃ sensor, sensors[k]? = some sensor ∧ Fills files path k sensor :=
  ⟨sensors[k], List.getElem?_eq_getElem hk, h.fills (List.getElem?_eq_getElem hk)⟩

theorem Slotted.eq_nil (h : Slotted files path Tank.maxSensors sensors)
    (hnone : present files path = ∅) : sensors = [] := by
  cases hlength : sensors.length with
  | zero => exact List.eq_nil_of_length_eq_zero hlength
  | succ k =>
      have hlast : k ∈ present files path := h.last hlength
      rw [hnone] at hlast
      contradiction

theorem Slotted.length_eq (h : Slotted files path Tank.maxSensors sensors) {top : Nat}
    (htop : IsGreatest (present files path) top) : sensors.length = top + 1 := by
  have hreaches : top < sensors.length := by
    by_contra hshort
    have hnone := h.beyond htop.1.1 (Nat.not_lt.mp hshort)
    rw [htop.1.2] at hnone
    contradiction
  obtain ⟨last, hlast⟩ := Nat.exists_eq_add_of_lt hreaches
  have hle : top + last ≤ top := htop.2 (h.last hlast)
  omega

section Reading

variable {k : Nat} {text : String}

theorem readSlots_of_none (h : files.holds (sensorFile path k) = false) (rest : List Nat) :
    readSlots files path (k :: rest) sensors = readSlots files path rest sensors := by
  rw [readSlots, if_neg (by simp [h])]

theorem readSlots_of_read (h : files (sensorFile path k) = .file text)
    {sensor : SensorSetting Float} (hread : SensorSetting.read text = .ok sensor) (rest : List Nat) :
    readSlots files path (k :: rest) sensors =
      readSlots files path rest (addSlot sensors k sensor) := by
  rw [readSlots, if_pos (holds_of_file h)]
  simp [readFile, Files.read, h, readSensor, hread, Except.mapError]

theorem readSlots_of_fault (h : files (sensorFile path k) = .file text) {fault : RuleFault Float}
    (hread : SensorSetting.read text = .error fault) (rest : List Nat) :
    readSlots files path (k :: rest) sensors = .error (.sensor fault) := by
  rw [readSlots, if_pos (holds_of_file h)]
  simp [readFile, Files.read, h, readSensor, hread, Except.mapError]

-- All files below a bound are read, and the ones that are missing passed over.
theorem exists_readSlots {first count bound : Nat} (hbound : first + count = bound)
    (h : Slotted files path first sensors)
    (hsound : ∀ k < bound, files.holds (sensorFile path k) = true → Sound files path k) :
    ∃ all, readSlots files path (List.range' first count) sensors = .ok all ∧
      Slotted files path bound all := by
  induction count generalizing first sensors with
  | zero =>
      obtain rfl := hbound
      exact ⟨sensors, rfl, h⟩
  | succ count ih =>
      rw [List.range'_succ]
      cases hholds : files.holds (sensorFile path first) with
      | false =>
          rw [readSlots_of_none hholds]
          exact ih (by omega) (h.skip hholds)
      | true =>
          obtain ⟨text, sensor, hfile, hread⟩ := hsound first (by omega) hholds
          rw [readSlots_of_read hfile hread]
          exact ih (by omega) (h.add hfile hread)

-- The first file at fault ends the reading, whatever comes after it.
theorem readSlots_of_first_fault {first count : Nat} (hfirst : first ≤ k) (hk : k < first + count)
    (hfile : files (sensorFile path k) = .file text) {fault : RuleFault Float}
    (hfault : SensorSetting.read text = .error fault)
    (hsound : ∀ j < k, files.holds (sensorFile path j) = true → Sound files path j) :
    readSlots files path (List.range' first count) sensors = .error (.sensor fault) := by
  induction count generalizing first sensors with
  | zero => omega
  | succ count ih =>
      rw [List.range'_succ]
      rcases Nat.eq_or_lt_of_le hfirst with rfl | hlater
      · exact readSlots_of_fault hfile hfault _
      · cases hholds : files.holds (sensorFile path first) with
        | false =>
            rw [readSlots_of_none hholds]
            exact ih hlater (by omega)
        | true =>
            obtain ⟨_, sensor, hfile', hread⟩ := hsound first hlater hholds
            rw [readSlots_of_read hfile' hread]
            exact ih hlater (by omega)

end Reading

section Directories

variable {program : String}

theorem readFile_of_file {text : String} (h : files path = .file text) :
    readFile files path = .ok text := by
  simp [readFile, Files.read, h, Except.mapError]

theorem Readable.sound_of_not_faulty (h : Readable files path) {k : Nat} (hk : k < Tank.maxSensors)
    (hsound : k ∉ faulty files path) (hholds : files.holds (sensorFile path k) = true) :
    Sound files path k := by
  obtain ⟨text, htext⟩ := h k ⟨hk, hholds⟩
  have hfile := file_of_read htext
  have hnumbers : SensorSetting.FourNumbers text := by
    by_contra hbroken
    exact hsound ⟨hk, text, hfile, hbroken⟩
  obtain ⟨sensor, hread⟩ := SensorSetting.exists_read_iff.mpr hnumbers
  exact ⟨text, sensor, hfile, hread⟩

theorem exists_tank (hdirectory : files path = .directory)
    (hprogram : files (Files.join path "program") = .file program)
    (hsound : ∀ k < Tank.maxSensors, files.holds (sensorFile path k) = true → Sound files path k)
    (shared : List (SensorSetting Float)) :
    ∃ entry own, tank files shared path = .ok entry ∧
      Slotted files path Tank.maxSensors own ∧
      entry.sensors = if own.isEmpty then shared else own := by
  obtain ⟨own, hslots, hslotted⟩ := exists_readSlots (Nat.zero_add _) slotted_nil hsound
  rw [← List.range_eq_range'] at hslots
  rw [tank, if_pos (by simp [Files.isDirectory, hdirectory]), fromDirectory,
    readFile_of_file hprogram, hslots]
  exact ⟨_, own, rfl, hslotted, rfl⟩

theorem tank_of_first_fault (hdirectory : files path = .directory)
    (hprogram : files (Files.join path "program") = .file program) {k : Nat}
    (hk : k < Tank.maxSensors) {text : String} (hfile : files (sensorFile path k) = .file text)
    {fault : RuleFault Float} (hfault : SensorSetting.read text = .error fault)
    (hsound : ∀ j < k, files.holds (sensorFile path j) = true → Sound files path j)
    (shared : List (SensorSetting Float)) :
    tank files shared path = .error (.sensor fault) := by
  have hslots : readSlots files path (List.range Tank.maxSensors) [] = .error (.sensor fault) := by
    rw [List.range_eq_range']
    exact readSlots_of_first_fault (Nat.zero_le k) (by rwa [Nat.zero_add]) hfile hfault hsound
  rw [tank, if_pos (by simp [Files.isDirectory, hdirectory]), fromDirectory,
    readFile_of_file hprogram, hslots]
  rfl

-- Sensors keep the numbers of their files: there are slots up to the last file, each with the
-- sensor of its file or empty, and the shared sensors only where there is no file at all. The
-- first file at fault is the one that is told of.
theorem sensors_keep_slots (hdirectory : files path = .directory)
    (hprogram : files (Files.join path "program") = .file program) (hreadable : Readable files path)
    (shared : List (SensorSetting Float)) :
    (faulty files path = ∅ → ∃ entry, tank files shared path = .ok entry ∧
      (present files path = ∅ → entry.sensors = shared) ∧
      ∀ top, IsGreatest (present files path) top → entry.sensors.length = top + 1 ∧
        ∀ k ≤ top, ∃ sensor, entry.sensors[k]? = some sensor ∧ Fills files path k sensor) ∧
    ∀ k, IsLeast (faulty files path) k → ∃ text fault, files (sensorFile path k) = .file text ∧
      SensorSetting.read text = .error fault ∧ tank files shared path = .error (.sensor fault) := by
  constructor
  · intro hnone
    obtain ⟨entry, own, hentry, hslotted, hsensors⟩ := exists_tank hdirectory hprogram
      (fun k hk => hreadable.sound_of_not_faulty hk (by simp [hnone])) shared
    refine ⟨entry, hentry, fun hempty => ?_, fun top htop => ?_⟩
    · rw [hsensors, hslotted.eq_nil hempty]
      rfl
    · have hlength := hslotted.length_eq htop
      have hown : own ≠ [] := List.ne_nil_of_length_eq_add_one hlength
      rw [hsensors, if_neg (by simpa using hown)]
      exact ⟨hlength, fun k hk => hslotted.exists_fills (by omega)⟩
  · rintro k ⟨⟨hk, text, hfile, hbroken⟩, hleast⟩
    have hsound : ∀ j < k, files.holds (sensorFile path j) = true → Sound files path j := by
      intro j hj
      exact hreadable.sound_of_not_faulty (hj.trans hk) fun hfaulty => (hleast hfaulty).not_gt hj
    cases hread : SensorSetting.read text with
    | ok sensor => exact absurd (SensorSetting.exists_read_iff.mp ⟨sensor, hread⟩) hbroken
    | error fault =>
        have hfault := tank_of_first_fault hdirectory hprogram hk hfile hread hsound shared
        exact ⟨text, fault, hfile, hread, hfault⟩

end Directories

-- Two tanks, the second of them with a sensor that lacks a number before one that has a word in
-- place of a number.
def garage : Files
  | "den" | "lair" => .directory
  | "den/program" | "lair/program" => .file "1 led!"
  | "den/sensor1" | "lair/sensor4" => .file "50 0 7 1"
  | "den/sensor3" => .file " 20 90\t4.5 0\n"
  | "lair/sensor5" => .file "20 90 4.5"
  | "lair/sensor8" => .file "near 0 7 1"
  | _ => .nothing .missing

theorem garage_den : ∀ k < Tank.maxSensors, garage (sensorFile "den" k) =
    if k = 1 then .file "50 0 7 1" else if k = 3 then .file " 20 90\t4.5 0\n"
    else .nothing .missing := by
  decide +kernel

theorem garage_lair : ∀ k < Tank.maxSensors, garage (sensorFile "lair" k) =
    if k = 4 then .file "50 0 7 1" else if k = 5 then .file "20 90 4.5"
    else if k = 8 then .file "near 0 7 1" else .nothing .missing := by
  decide +kernel

-- Slot 2 of the first tank stays empty; of the second one nothing is loaded.
theorem sensors_keep_slots_garage :
    garage "den" = .directory ∧ garage "lair" = .directory ∧ Readable garage "den" ∧
    Readable garage "lair" ∧
    (∃ entry, tank garage [.emptySlot] "den" = .ok entry ∧ entry.sensors.length = 4 ∧
      entry.sensors[2]? = some .emptySlot) ∧
    ∃ fault, SensorSetting.read "20 90 4.5" = .error fault ∧
      tank garage [.emptySlot] "lair" = .error (.sensor fault) := by
  have hden : garage "den" = .directory := by decide +kernel
  have hlair : garage "lair" = .directory := by decide +kernel
  have hreadDen : Readable garage "den" := readable_of_ne_directory (by decide +kernel)
  have hreadLair : Readable garage "lair" := readable_of_ne_directory (by decide +kernel)
  have hdenProgram : garage (Files.join "den" "program") = .file "1 led!" := by decide +kernel
  have hlairProgram : garage (Files.join "lair" "program") = .file "1 led!" := by decide +kernel
  refine ⟨hden, hlair, hreadDen, hreadLair, ?_, ?_⟩
  · have hsound : faulty garage "den" = ∅ := by
      refine Set.eq_empty_of_forall_notMem ?_
      rintro k ⟨hk, text, hfile, hbroken⟩
      have hden := garage_den k hk
      rw [hfile] at hden
      split_ifs at hden with h1 h3
      · obtain rfl := Found.file.inj hden
        exact hbroken (by decide +kernel)
      · obtain rfl := Found.file.inj hden
        exact hbroken (by decide +kernel)
    have hlast : ∀ k < Tank.maxSensors, garage.holds (sensorFile "den" k) = true → k ≤ 3 := by
      decide +kernel
    have htop : IsGreatest (present garage "den") 3 :=
      ⟨⟨by decide, by decide +kernel⟩, fun k hk => hlast k hk.1 hk.2⟩
    obtain ⟨entry, hentry, -, hslots⟩ :=
      (sensors_keep_slots hden hdenProgram hreadDen [.emptySlot]).1 hsound
    obtain ⟨hlength, hfills⟩ := hslots 3 htop
    obtain ⟨sensor, hsensor, hfill⟩ := hfills 2 (by decide)
    exact ⟨entry, hentry, hlength, by rw [hsensor, hfill.ofNone (by decide +kernel)]⟩
  · have hleast : IsLeast (faulty garage "lair") 5 := by
      refine ⟨⟨by decide, "20 90 4.5", garage_lair 5 (by decide), by decide +kernel⟩, ?_⟩
      rintro k ⟨hk, text, hfile, hbroken⟩
      have hlair := garage_lair k hk
      rw [hfile] at hlair
      split_ifs at hlair with h4 h5 h8
      · obtain rfl := Found.file.inj hlair
        exact absurd (by decide +kernel) hbroken
      · omega
      · omega
    obtain ⟨text, fault, hfile, hread, hfault⟩ :=
      (sensors_keep_slots hlair hlairProgram hreadLair [.emptySlot]).2 5 hleast
    obtain rfl := Found.file.inj ((garage_lair 5 (by decide)).symm.trans hfile)
    exact ⟨fault, hread, hfault⟩

end Loading

end Skirmish
