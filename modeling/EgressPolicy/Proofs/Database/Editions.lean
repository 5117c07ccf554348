/-
EgressPolicy/Proofs/Database/Editions.lean

What reading a record as one of the city edition adds to its country: nothing.

The city edition knows all fields that the country edition does, in the same
shapes.  When both go through the entries of one map, the country edition
skips where only the city edition reads, and both are at the same entry
(`skip?_of_decode?`).  So what the one has found is always part of what the
other has, and the country is the same in both (`Covers`), up to the end.

Two things can put them out of step.  A number for a key names a field by its
place, and the first five places are different fields in the two editions.  And
an array with elements to spare, in a field that only the city edition reads,
is read to another position than it is skipped to.  `Ordinary` entries have
neither, and with either the second reading can find a code that the first
does not.
-/
import Mathlib
import EgressPolicy.Database.Country
import EgressPolicy.Proofs.Database.Alignment
import EgressPolicy.Proofs.Text.Traversal

namespace EgressPolicy

/-- The fields of a record. -/
def Shape.fields : Shape → List (String × Shape)
  | record fields => fields
  | _ => []

namespace Section

variable {s : Section}

/-! ### Records that are maps -/

/-- There is a map of `count` entries at a position, or pointers lead from there
to one; its first entry is at `start`. -/
inductive IsMap (s : Section) (count start : Nat) : Nat → Prop
  | here {pos : Nat} : s.item? pos = some (.map count, start) → IsMap s count start pos
  | pointer {pos target next : Nat} :
      s.item? pos = some (.pointer target, next) → IsMap s count start target →
      IsMap s count start pos

/-- A map is read as any record by going through its entries, with the same
levels left for the values, or as none, if it is too deep. -/
theorem decode?_of_isMap {count start pos : Nat} (h : s.IsMap count start pos) (depth : Nat) :
    (∀ fields, s.decode? depth (.record fields) pos = none) ∨
      ∃ d < depth, ∀ fields, (s.decode? depth (.record fields) pos).map Prod.fst =
        (s.entries? (s.decode? d) fields count [] start).map fun e => .record e.1 := by
  induction h generalizing depth with
  | here hitem =>
    cases depth with
    | zero =>
      refine .inl fun fields => ?_
      rw [decode?, hitem]
      rfl
    | succ depth =>
      refine .inr ⟨depth, depth.lt_succ_self, fun fields => ?_⟩
      rw [decode?, hitem]
      show ((s.entries? (s.decode? depth) fields count [] start).map _).map _ = _
      rw [Option.map_map]
      rfl
  | @pointer pos target next hitem _ ih =>
    cases depth with
    | zero =>
      refine .inl fun fields => ?_
      rw [decode?, hitem]
      rfl
    | succ depth =>
      have hstep (fields : List (String × Shape)) :
          (s.decode? (depth + 1) (.record fields) pos).map Prod.fst =
            (s.decode? depth (.record fields) target).map Prod.fst := by
        rw [decode?, hitem]
        show ((s.decode? depth (.record fields) target).map _).map _ = _
        rw [Option.map_map]
        rfl
      rcases ih depth with hdeep | ⟨d, hd, hentries⟩
      · refine .inl fun fields => ?_
        rw [← Option.map_eq_none_iff, hstep, hdeep fields]
        rfl
      · exact .inr ⟨d, hd.trans depth.lt_succ_self,
          fun fields => (hstep fields).trans (hentries fields)⟩

end Section

namespace Database

open Section

/-! ### Ordinary entries -/

/-- The data of a database. -/
def data (db : Database) : Section := ⟨db.bytes, db.dataStart⟩

/-- An entry that does not put the editions out of step: its key is no number of
a field of the country edition, and if only the city edition reads its value,
this has no array with elements to spare. -/
structure OrdinaryEntry (s : Section) (key : Item) (value : Nat) : Prop where
  number : ∀ n, key = .unsigned n → countryShape.fields.length ≤ n
  spare : ∀ name shape, fieldNamed? cityShape.fields key = some (some (name, shape)) →
    fieldNamed? countryShape.fields key = some none → ¬ s.Spare shape value

/-- All entries of a map are ordinary that one comes to when it is read as a
record of the city edition. -/
def Ordinary (s : Section) (count start : Nat) : Prop :=
  ∀ depth < maxDepth, ∀ i < count, ∀ found pos key value,
    s.entries? (s.decode? depth) cityShape.fields i [] start = some (found, pos) →
    s.key? pos = some (key, value) → OrdinaryEntry s key value

/-- A key that is a text names the field that has it for its name. -/
theorem fieldNamed?_toUTF8 (fields : List (String × Shape)) (name : String) :
    fieldNamed? fields (.bytes name.toUTF8) = some (fields.find? (name = ·.1)) := by
  have htext : String.fromUTF8? name.toUTF8 = some name := dif_pos name.isValidUTF8
  simp only [fieldNamed?, htext, Option.some.injEq]

/-- The city edition knows the fields of the country edition, in their order. -/
theorem country_sublist_city : countryShape.fields.Sublist cityShape.fields :=
  .cons _ <| .cons_cons _ <| .cons_cons _ <| .cons _ <| .cons _ <| .cons_cons _ <|
    .cons_cons _ <| .cons _ <| .cons_cons _ .slnil

/-- A field of the city edition is one of the country edition too, or its name is
unknown there. -/
theorem find?_country_of_mem_city {f : String × Shape} (h : f ∈ cityShape.fields) :
    countryShape.fields.find? (some f.1 = some ·.1) = some f ∨
      countryShape.fields.find? (some f.1 = some ·.1) = none ∧ f.1 ≠ "country" := by
  simp only [cityShape, Shape.fields, List.mem_cons, List.not_mem_nil, or_false] at h
  rcases h with rfl | rfl | rfl | rfl | rfl | rfl | rfl | rfl | rfl
  · exact .inr ⟨rfl, by decide⟩
  · exact .inl rfl
  · exact .inl rfl
  · exact .inr ⟨rfl, by decide⟩
  · exact .inr ⟨rfl, by decide⟩
  · exact .inl rfl
  · exact .inl rfl
  · exact .inr ⟨rfl, by decide⟩
  · exact .inl rfl

/-- No number behind those of the country edition's fields names the country. -/
theorem name_ne_country_of_getElem? {n : Nat} (hn : countryShape.fields.length ≤ n) {name : String}
    {shape : Shape} (h : cityShape.fields[n]? = some (name, shape)) : name ≠ "country" := by
  obtain ⟨hlt, -⟩ := List.getElem?_eq_some_iff.mp h
  have hlow : 5 ≤ n := hn
  have hhigh : n < 9 := hlt
  interval_cases n <;> cases h <;> decide

/-- A key that is no number of a field of the country edition means the same in
both editions, or it is a field that only the city edition knows, and not the
country. -/
theorem fieldNamed?_editions {key : Item}
    (h : ∀ n, key = .unsigned n → countryShape.fields.length ≤ n) :
    fieldNamed? countryShape.fields key = fieldNamed? cityShape.fields key ∨
      fieldNamed? countryShape.fields key = some none ∧
        ∃ name shape, fieldNamed? cityShape.fields key = some (some (name, shape)) ∧
          name ≠ "country" := by
  cases key with
  | bytes b =>
    rcases hcity : cityShape.fields.find? (String.fromUTF8? b = some ·.1) with - | ⟨name, shape⟩
    · have hcountry : countryShape.fields.find? (String.fromUTF8? b = some ·.1) = none := by
        rw [List.find?_eq_none] at hcity ⊢
        exact fun f hf => hcity f (country_sublist_city.subset hf)
      exact .inl (congrArg some (hcountry.trans hcity.symm))
    · have hname : String.fromUTF8? b = some name := by simpa using List.find?_some hcity
      rcases find?_country_of_mem_city (List.mem_of_find?_eq_some hcity) with hf | ⟨hf, hne⟩
      · rw [← hname] at hf
        exact .inl (congrArg some (hf.trans hcity.symm))
      · rw [← hname] at hf
        exact .inr ⟨congrArg some hf, name, shape, congrArg some hcity, hne⟩
  | unsigned n =>
    have hcountry : fieldNamed? countryShape.fields (.unsigned n) = some none :=
      congrArg some (List.getElem?_eq_none (h n rfl))
    rcases hcity : cityShape.fields[n]? with - | ⟨name, shape⟩
    · exact .inl (hcountry.trans (congrArg some hcity.symm))
    · exact .inr ⟨hcountry, name, shape, congrArg some hcity,
        name_ne_country_of_getElem? (h n rfl) hcity⟩
  | _ => exact .inl rfl

/-! ### What has been read -/

/-- Of what the city edition has found, the country edition has found a part, the
country included. -/
structure Covers (country city : List (String × Datum)) : Prop where
  known : ∀ name, (country.lookup name).isSome → (city.lookup name).isSome
  same : country.lookup "country" = city.lookup "country"

namespace Covers

variable {country city : List (String × Datum)}

/-- Both read a field. -/
theorem append (h : Covers country city) (name : String) (datum : Datum) :
    Covers (country ++ [(name, datum)]) (city ++ [(name, datum)]) where
  known other hother := by
    rw [List.lookup_append, Option.isSome_or, Bool.or_eq_true] at hother ⊢
    exact hother.imp_left (h.known other)
  same := by rw [List.lookup_append, List.lookup_append, h.same]

/-- Only the city edition reads a field. -/
theorem append_city (h : Covers country city) {name : String} (hname : name ≠ "country")
    (datum : Datum) : Covers country (city ++ [(name, datum)]) where
  known other hother := by
    rw [List.lookup_append, Option.isSome_or, h.known other hother, Bool.true_or]
  same := by
    have hlast : [(name, datum)].lookup "country" = none := by
      rw [List.lookup_cons, beq_false_of_ne hname.symm]
      rfl
    rw [List.lookup_append, h.same, hlast, Option.or_none]

/-- Both find the same code. -/
theorem codeIn?_eq (h : Covers country city) :
    codeIn? (.record country) = codeIn? (.record city) := by
  rw [codeIn?, codeIn?, Datum.field?, Datum.field?, h.same]

end Covers

/-! ### Going through the entries -/

variable {s : Section}

section Entries

variable {value : Shape → Nat → Option (Datum × Nat)} {city country : List (String × Datum)}

/-- **One entry.**  Where the city edition passes an ordinary entry, the country
edition passes it to the same position, and the one still covers the other. -/
theorem exists_entries?_succ {count start : Nat} {r : List (String × Datum) × Nat}
    (hvalue : ∀ {shape pos datum next}, value shape pos = some (datum, next) →
      ¬ s.Spare shape pos → s.skip? pos = some next)
    (hordinary : ∀ key v, s.key? start = some (key, v) → OrdinaryEntry s key v)
    (hcovers : Covers country city)
    (h : s.entries? value cityShape.fields (count + 1) city start = some r) :
    ∃ city₁ country₁ mid, Covers country₁ city₁ ∧
      (∀ i, s.entries? value cityShape.fields (i + 1) city start =
        s.entries? value cityShape.fields i city₁ mid) ∧
      ∀ i, s.entries? value countryShape.fields (i + 1) country start =
        s.entries? value countryShape.fields i country₁ mid := by
  obtain ⟨key, v, mid, hkey, hentry⟩ := exists_of_entries?_succ h
  have hkeyOrdinary := hordinary key v hkey
  have hknown := fieldNamed?_editions hkeyOrdinary.number
  rcases hentry with ⟨hnamed, hskip⟩ | ⟨name, shape, datum, hnamed, hnew, hread⟩
  · -- Neither edition knows the key.
    have hnone : fieldNamed? countryShape.fields key = some none := by
      rcases hknown with hsame | ⟨hnone, -⟩
      · exact hsame.trans hnamed
      · exact hnone
    exact ⟨city, country, mid, hcovers, fun i => entries?_succ_of_unknown hkey hnamed hskip i city,
      fun i => entries?_succ_of_unknown hkey hnone hskip i country⟩
  · have hcity := entries?_succ_of_field hkey hnamed hnew hread
    rcases hknown with hsame | ⟨hnone, name', shape', hnamed', hne⟩
    · -- Both editions read the field.
      have hnewCountry : (country.lookup name).isSome = false := by
        rw [Bool.eq_false_iff] at hnew ⊢
        exact mt (hcovers.known name) hnew
      exact ⟨_, _, mid, hcovers.append name datum, hcity,
        entries?_succ_of_field hkey (hsame.trans hnamed) hnewCountry hread⟩
    · -- The city edition reads the field, and the country edition skips it.
      obtain ⟨rfl, rfl⟩ : name' = name ∧ shape' = shape := by
        simpa using hnamed'.symm.trans hnamed
      have hskip : s.skip? v = some mid :=
        hvalue hread (hkeyOrdinary.spare name' shape' hnamed hnone)
      exact ⟨_, country, mid, hcovers.append_city hne datum, hcity,
        fun i => entries?_succ_of_unknown hkey hnone hskip i country⟩

/-- **All entries.**  Where the city edition goes through ordinary entries, so
does the country edition, and finds a part of what the other finds. -/
theorem exists_entries?_country {count start next : Nat} {city' : List (String × Datum)}
    (hvalue : ∀ {shape pos datum next}, value shape pos = some (datum, next) →
      ¬ s.Spare shape pos → s.skip? pos = some next)
    (hordinary : ∀ i < count, ∀ found pos key v,
      s.entries? value cityShape.fields i city start = some (found, pos) →
      s.key? pos = some (key, v) → OrdinaryEntry s key v)
    (hcovers : Covers country city)
    (h : s.entries? value cityShape.fields count city start = some (city', next)) :
    ∃ country', s.entries? value countryShape.fields count country start =
      some (country', next) ∧ Covers country' city' := by
  induction count generalizing city country start with
  | zero =>
    cases h
    exact ⟨country, rfl, hcovers⟩
  | succ count ih =>
    obtain ⟨city₁, country₁, mid, hcovers₁, hcity, hcountry⟩ := exists_entries?_succ hvalue
      (fun key v => hordinary 0 count.succ_pos city start key v rfl) hcovers h
    rw [hcountry]
    refine ih ?_ hcovers₁ ((hcity count).symm.trans h)
    intro i hi found pos key v hfound
    exact hordinary (i + 1) (Nat.succ_lt_succ hi) found pos key v ((hcity i).trans hfound)

end Entries

/-! ### Codes -/

/-- A code that the city edition finds in a map of ordinary entries, the country
edition finds too. -/
theorem codeIn?_country_of_city {count start pos : Nat} (hmap : s.IsMap count start pos)
    (hordinary : Ordinary s count start) {code : String}
    (h : (s.datum? cityShape pos).bind codeIn? = some code) :
    (s.datum? countryShape pos).bind codeIn? = some code := by
  rcases decode?_of_isMap hmap maxDepth with hdeep | ⟨d, hd, hentries⟩
  · have hnone : s.datum? cityShape pos = none := congrArg _ (hdeep cityShape.fields)
    rw [hnone] at h
    cases h
  · have hcity : s.datum? cityShape pos = _ := hentries cityShape.fields
    have hcountry : s.datum? countryShape pos = _ := hentries countryShape.fields
    rw [hcity] at h
    obtain ⟨_, hfound, hcode⟩ := Option.bind_eq_some_iff.mp h
    obtain ⟨⟨found, next⟩, hread, rfl⟩ := Option.map_eq_some_iff.mp hfound
    obtain ⟨found', hread', hcovers⟩ := exists_entries?_country skip?_of_decode?
      (hordinary d hd) ⟨fun _ => id, rfl⟩ hread
    rw [hcountry, hread']
    exact hcovers.codeIn?_eq.trans hcode

/-! ### Opened files -/

variable {db : Database}

/-- Whatever is asked of a record about itself, the database has the bytes of the file. -/
theorem bytes_of_ofAbout? {bytes : ByteArray} {about : Datum}
    (h : ofAbout? bytes about = some db) : db.bytes = bytes := by
  revert db
  show ∀ db ∈ ofAbout? bytes about, db.bytes = bytes
  unfold ofAbout?
  -- the steps look at the record, and only the last one makes a database
  repeat refine Text.forall_mem_bind fun _ => ?_
  rintro db ⟨⟩
  rfl

/-- A file is opened if it has a marker, a sound record behind the last one, and
a way to the IPv4 addresses. -/
theorem ofBytes?_eq_some {bytes : ByteArray} {start : Nat}
    (hstart : afterMarker? bytes bytes.size = some start)
    (habout : (Section.mk bytes start).datum? aboutShape 0 >>= ofAbout? bytes = some db)
    (htree : db.ipv4Start?.isSome = true) : ofBytes? bytes = some db := by
  rw [ofBytes?_eq_some_iff]
  simp only [ofBytes, hstart, habout, if_pos htree]

/-! ### Countries -/

theorem find?_eq {ip : Ip} {pos : Nat} (h : db.position? ip = some pos) (shape : Shape) :
    db.find? shape ip = db.data.datum? shape pos := by
  rw [find?, h]
  rfl

/-- **The second reading adds nothing.**  For a record that is a map of ordinary
entries, an address's country is the one that is found in the country edition,
in capitals, and none if none is found there; the city edition finds no code
that the country edition does not. -/
theorem countryCode_eq_country {ip : Ip} {pos count start : Nat} (hpos : db.position? ip = some pos)
    (hmap : db.data.IsMap count start pos) (hordinary : Ordinary db.data count start) :
    db.countryCode ip = ((db.find? countryShape ip).bind codeIn?).map Text.upper ∧
      ∀ code, (db.find? cityShape ip).bind codeIn? = some code →
        (db.find? countryShape ip).bind codeIn? = some code := by
  have hadds : ∀ code, (db.find? cityShape ip).bind codeIn? = some code →
      (db.find? countryShape ip).bind codeIn? = some code := by
    rw [find?_eq hpos, find?_eq hpos]
    exact fun code => codeIn?_country_of_city hmap hordinary
  refine ⟨?_, hadds⟩
  rw [countryCode]
  rcases hcountry : (db.find? countryShape ip).bind codeIn? with - | code
  · rcases hcity : (db.find? cityShape ip).bind codeIn? with - | code
    · rfl
    · cases hcountry.symm.trans (hadds code hcity)
  · rfl

/-! ### A sample -/

namespace Sample

/-- A short text, as it is stored. -/
def text (s : String) : List UInt8 := UInt8.ofNat (0x40 + s.utf8ByteSize) :: s.toUTF8.toList

/-- A map whose only key is a number: that of the country in the city edition,
and that of the country of registration in the country edition. -/
def numbered : List UInt8 := [0xE1, 0xA1, 2, 0xE1] ++ text "iso_code" ++ text "xx"

/-- A map whose city is an array of four elements, where a city has two fields.
The other two look like the country to a reader who does not skip them. -/
def surplus : List UInt8 :=
  [0xE2] ++ text "city" ++ [0x04, 0x04, 0xC0, 0xE0] ++
    text "country" ++ [0xE1] ++ text "iso_code" ++ text "xx" ++ text "x" ++ [0xC0]

/-- A map with a city and a country. -/
def sound : List UInt8 :=
  [0xE2] ++ text "city" ++ [0xE1] ++ text "geoname_id" ++ [0xC1, 5] ++
    text "country" ++ [0xE1] ++ text "iso_code" ++ text "de"

/-- A file with these records at the positions 0, 16 and 50 of its data.  The
first two bits of an address lead to the first record if they are 00, to the
second if they are 01, and to the third otherwise. -/
def file : ByteArray :=
  ⟨(List.flatten [[0, 0, 1, 0, 0, 68, 0, 0, 18, 0, 0, 34], List.replicate 16 0,
    numbered, surplus, sound, marker.toList, [0xE9],
    text "binary_format_major_version", [0xA1, 2],
    text "binary_format_minor_version", [0xA0],
    text "build_epoch", [0xA1, 1],
    text "database_type", text "Sample",
    text "description", [0xE0],
    text "ip_version", [0xA1, 4],
    text "languages", [0x00, 0x04],
    text "node_count", [0xC1, 2],
    text "record_size", [0xA1, 24]]).toArray⟩

/-- The database in the file. -/
def database : Database := ⟨file, "Sample", 4, 2, .bits24⟩

theorem ofBytes?_file : ofBytes? file = some database := by
  have hstart : afterMarker? file file.size = some 133 := by decide +kernel
  have habout : ((Section.mk file 133).datum? aboutShape 0 >>= ofAbout? file).map
      (fun db => (db.title, db.ipVersion, db.nodeCount, db.width)) =
      some ("Sample", 4, 2, .bits24) := by
    decide +kernel
  obtain ⟨⟨bytes, title, ipVersion, nodeCount, width⟩, hdb, hfields⟩ :=
    Option.map_eq_some_iff.mp habout
  obtain ⟨about, -, hread⟩ := Option.bind_eq_some_iff.mp hdb
  obtain rfl : bytes = file := bytes_of_ofAbout? hread
  cases hfields
  exact ofBytes?_eq_some hstart hdb rfl

theorem fieldNamed?_city :
    fieldNamed? cityShape.fields (.bytes "city".toUTF8) =
      some (some ("city", .record [placeNumber, names])) :=
  (fieldNamed?_toUTF8 _ "city").trans rfl

theorem fieldNamed?_country :
    fieldNamed? countryShape.fields (.bytes "country".toUTF8) = some (some country) :=
  (fieldNamed?_toUTF8 _ "country").trans rfl

/-- The city of the third record is a map with a number in it. -/
theorem not_spare_city : ¬ database.data.Spare (.record [placeNumber, names]) 56 := by
  have hcity : database.data.item? 56 = some (.map 1, 57) := by decide +kernel
  have hkey : database.data.key? 57 = some (.bytes "geoname_id".toUTF8, 68) := by decide +kernel
  have hnumber : database.data.item? 68 = some (.unsigned 5, 70) := by decide +kernel
  intro h
  cases h with
  | here hitem => cases hcity.symm.trans hitem
  | pointer hitem => cases hcity.symm.trans hitem
  | field hitem => cases hcity.symm.trans hitem
  | entry hitem hi hp hkey' hnamed hspare =>
    cases hcity.symm.trans hitem
    obtain rfl := Nat.lt_one_iff.mp hi
    cases hp
    cases hkey.symm.trans hkey'
    have hplace : fieldNamed? [placeNumber, names] (.bytes "geoname_id".toUTF8) =
        some (some placeNumber) :=
      (fieldNamed?_toUTF8 _ "geoname_id").trans rfl
    cases hplace.symm.trans hnamed
    cases hspare with
    | pointer hitem => cases hnumber.symm.trans hitem

theorem ordinary_sound : Ordinary database.data 2 51 := by
  have hcity : database.data.key? 51 = some (.bytes "city".toUTF8, 56) := by decide +kernel
  have hskip : database.data.skip? 56 = some 70 := by decide +kernel
  have hcountry : database.data.key? 70 = some (.bytes "country".toUTF8, 78) := by decide +kernel
  intro depth _ i hi found pos key v hfound hkey
  interval_cases i
  · cases hfound
    cases hcity.symm.trans hkey
    refine ⟨nofun, fun name shape hnamed _ => ?_⟩
    cases fieldNamed?_city.symm.trans hnamed
    exact not_spare_city
  · obtain ⟨key₁, v₁, mid, hkey₁, hentry⟩ := exists_of_entries?_succ hfound
    cases hcity.symm.trans hkey₁
    rcases hentry with ⟨hnamed, -⟩ | ⟨name, shape, datum, hnamed, hnew, hread⟩
    · cases fieldNamed?_city.symm.trans hnamed
    · cases fieldNamed?_city.symm.trans hnamed
      rw [entries?_succ_of_field hkey₁ hnamed hnew hread] at hfound
      cases hfound
      cases hskip.symm.trans (skip?_of_decode? hread not_spare_city)
      cases hcountry.symm.trans hkey
      refine ⟨nofun, fun _ _ _ hunknown => ?_⟩
      cases fieldNamed?_country.symm.trans hunknown

end Sample

/-- A city in front of the country does no harm. -/
theorem countryCode_eq_country_sample :
    ofBytes? Sample.file = some Sample.database ∧
      Sample.database.countryCode (.v4 0x80000000#32) = some "DE" := by
  have hpos : Sample.database.position? (.v4 0x80000000#32) = some 50 := by decide +kernel
  have hmap : Sample.database.data.item? 50 = some (.map 2, 51) := by decide +kernel
  have hcode : (Sample.database.find? countryShape (.v4 0x80000000#32)).bind codeIn? =
      some "de" := by
    decide +kernel
  refine ⟨Sample.ofBytes?_file, ?_⟩
  rw [(countryCode_eq_country hpos (.here hmap) Sample.ordinary_sound).1, hcode]
  decide +kernel

/-- **A number for a key, or an array with elements to spare, gives a code that
the country edition does not find.**  In the file that is opened here both of
these records are maps, and their code comes from the second reading alone. -/
theorem second_reading_adds_code :
    ofBytes? Sample.file = some Sample.database ∧
      ∀ r ∈ [(0x00000000#32, 0, 1), (0x40000000#32, 16, 2)],
        Sample.database.position? (.v4 r.1) = some r.2.1 ∧
          Sample.database.data.IsMap r.2.2 (r.2.1 + 1) r.2.1 ∧
          (Sample.database.find? countryShape (.v4 r.1)).bind codeIn? = none ∧
          Sample.database.countryCode (.v4 r.1) = some "XX" := by
  have hnumbered : Sample.database.data.item? 0 = some (.map 1, 1) := by decide +kernel
  have hsurplus : Sample.database.data.item? 16 = some (.map 2, 17) := by decide +kernel
  refine ⟨Sample.ofBytes?_file, ?_⟩
  simp only [List.forall_mem_cons, List.not_mem_nil, false_imp_iff, implies_true, and_true]
  refine ⟨⟨?_, .here hnumbered, ?_, ?_⟩, ⟨?_, .here hsurplus, ?_, ?_⟩⟩ <;> decide +kernel

end Database
end EgressPolicy
