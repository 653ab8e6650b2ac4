import RecordSql.Sql.Insert
import RecordSql.Sql.Select

/-!
# Samples

Record types and statements at which general results are tried.

* `Sample.person`: a record type with a renamed column and a field that may be null.
* `Sample.city`: one with a table name of its own and a document that may be absent.
* `Sample.noted`: a city.
* `Sample.renamed`, `Sample.exchanged`: registries with other columns for people.
* `Sample.al`, `Sample.nameless`: people.
* `Sample.ages`, `Sample.ageless`: rows for them.
* `Sample.directory`: a SELECT that joins them.
* `Sample.eitherFirst`, `Sample.bothFirst`: conditions that differ in their grouping only.
* `Sample.leftDeep`, `Sample.rightDeep`: joins that do.
-/

namespace RecordSql.Sample

def person : Entity :=
  ⟨"sample::Person", "Person", "", .named,
    [⟨"id", .int .i64, "column=person_id", .plain⟩, ⟨"nick", .optional .text, "", .plain⟩,
      ⟨"age", .int .u8, "", .plain⟩],
    .map⟩

def city : Entity :=
  ⟨"sample::City", "City", "cities", .named,
    [⟨"id", .int .i64, "", .plain⟩, ⟨"notes", .optional .json, "", .plain⟩], .map⟩

/-- A city with a document. -/
def noted : Record city := fun
  | ⟨0, _⟩ => (⟨5, by decide⟩ : { i : Int64 // IntWidth.i64.Has i })
  | ⟨1, _⟩ => (some (.bool true) : Option Json)

/-- The registry in which the column of nicknames has another name. -/
def renamed : Registry := (Registry.empty.register person [.column "nick" "alias"]).registry

/-- Options that let two fields change their columns, by way of a third one. -/
def swapped : List ModelOption :=
  [.column "nick" "spare", .column "age" "nick", .table "people", .column "nick" "age"]

/-- The registry in which they have changed them. -/
def exchanged : Registry := (Registry.empty.register person swapped).registry

def al : Record person := fun
  | ⟨0, _⟩ => (⟨1, by decide⟩ : { i : Int64 // IntWidth.i64.Has i })
  | ⟨1, _⟩ => (some "Al" : Option String)
  | ⟨2, _⟩ => (⟨30, by decide⟩ : { i : Int64 // IntWidth.u8.Has i })

/-- A person without a nickname. -/
def nameless : Record person := fun
  | ⟨0, _⟩ => (⟨7, by decide⟩ : { i : Int64 // IntWidth.i64.Has i })
  | ⟨1, _⟩ => (none : Option String)
  | ⟨2, _⟩ => (⟨90, by decide⟩ : { i : Int64 // IntWidth.u8.Has i })

/-- A row with one column twice and an integer as text. -/
def ages : Rows := ⟨["age", "alias", "age"], [[.text "30", .text "Al", .int 31]], some 0⟩

/-- A row with an age that no person has, behind two values that fit. -/
def ageless : Rows :=
  ⟨["alias", "person_id", "age"], [[], [.text "Al", .bytes [0x37], .int 300]], some 1⟩

/-- People and the cities with their numbers, from a join. -/
def directory : Select where
  columns := [.column ⟨"id", none, none, none⟩, .raw ⟨"? + ?", [.int 1, .int 2]⟩]
  source := some (.join .left (.table ⟨person, some "p"⟩) (.table ⟨city, none⟩)
    (.on [.compare .eq (.column ⟨"id", none, none, none⟩)
      (.term (.column ⟨"id", some ⟨city, none⟩, none, none⟩))]))
  wheres := [.compareTruth .eq (.column ⟨"nick", none, none, none⟩)
      (.not (.compare .gt (.column ⟨"age", none, none, none⟩) (.value (.int 30)))),
    .raw ⟨"x = ?", [.text "?"]⟩]
  groupBy := []
  having := []
  orderBy := []
  limit := 5
  offset := 10

/-- What `directory` is written as. -/
def directoryText : String :=
  String.join ["SELECT `p`.`person_id`,? + ? FROM (`person` AS `p` LEFT JOIN `cities` ON ",
    "`p`.`person_id` = `cities`.`id`) WHERE (`p`.`nick` = (NOT (`p`.`age` > ?))) AND (x = ?) ",
    "LIMIT ? OFFSET ?;"]

/-- People over thirty. -/
def grown : Predicate := .compare .gt (.column ⟨"age", none, none, none⟩) (.value (.int 30))

def named : Predicate := .holds (.column ⟨"nick", none, none, none⟩)

def eitherFirst : Predicate := .and (.or grown named) (.not named)

def bothFirst : Predicate := .or grown (.and named (.not named))

def leftDeep : TableRef :=
  .join .left (.join .inner (.table ⟨person, some "p"⟩) (.table ⟨city, none⟩) (.using ["id"]))
    (.table ⟨person, none⟩) (.on [grown])

def rightDeep : TableRef :=
  .join .inner (.table ⟨person, some "p"⟩)
    (.join .left (.table ⟨city, none⟩) (.table ⟨person, none⟩) (.on [grown])) (.using ["id"])

end RecordSql.Sample
