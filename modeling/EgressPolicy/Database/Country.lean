/-
EgressPolicy/Database/Country.lean

The country of an address.

Databases come in two editions.  Their records have the country in a field of
the same name and shape, but the fields around it differ, and with them what
makes a record unsound.  A record is read as one of the country edition
first; if that gives no code it is read as one of the city edition.
-/
import EgressPolicy.Database.Basic
import EgressPolicy.Rule.Matching
import EgressPolicy.Text.Quoted

namespace EgressPolicy
namespace Database

/-! ### The shapes of records -/

/-- A number that names a place. -/
def placeNumber : String × Shape := ("geoname_id", .unsigned 0xFFFFFFFF)

/-- A name in several languages. -/
def names : String × Shape :=
  ("names", .record ((["de", "en", "es", "fr", "ja", "pt-BR", "ru", "zh-CN"]).map (·, .text)))

/-- The fields of a country. -/
def countryFields : List (String × Shape) :=
  [placeNumber, ("is_in_european_union", .flag), ("iso_code", .text), names]

/-- A continent. -/
def continent : String × Shape := ("continent", .record [("code", .text), placeNumber, names])

/-- The country that an address is in. -/
def country : String × Shape := ("country", .record countryFields)

/-- The country that an address is registered in. -/
def registeredCountry : String × Shape := ("registered_country", .record countryFields)

/-- The country that an address represents. -/
def representedCountry : String × Shape :=
  ("represented_country", .record (countryFields ++ [("type", .text)]))

/-- Properties of the address itself. -/
def traits : String × Shape := ("traits", .record [("is_anycast", .flag)])

/-- A record of the country edition. -/
def countryShape : Shape :=
  .record [continent, country, registeredCountry, representedCountry, traits]

/-- A record of the city edition. -/
def cityShape : Shape :=
  .record [
    ("city", .record [placeNumber, names]),
    continent,
    country,
    ("location", .record [("accuracy_radius", .unsigned 0xFFFF), ("latitude", .number),
      ("longitude", .number), ("metro_code", .unsigned 0xFFFF), ("time_zone", .text)]),
    ("postal", .record [("code", .text)]),
    registeredCountry,
    representedCountry,
    ("subdivisions", .list (.record [placeNumber, ("iso_code", .text), names])),
    traits]

/-! ### Codes -/

/-- The country code in a record. -/
def codeIn? (record : Datum) : Option String := do
  (← (← record.field? "country").field? "iso_code").text?

/-- The code of an address's country, in capitals. -/
def countryCode (db : Database) : CountryReader := fun ip =>
  (((db.find? countryShape ip).bind codeIn?).or ((db.find? cityShape ip).bind codeIn?)).map
    Text.upper

/-- The one-line summary of a database. -/
def summary (db : Database) : String :=
  "MaxmindReader \x7b database_type: " ++ Text.quoted db.title ++ " \x7d"

end Database
end EgressPolicy
