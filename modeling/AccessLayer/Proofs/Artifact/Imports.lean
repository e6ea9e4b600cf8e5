import AccessLayer.Proofs.Artifact.Dependency

namespace AccessLayer

open Line Text

/-- What a file may have to know besides what every file of its kind knows. -/
inductive Need
  | holds (category : Category)
  | optional
  deriving DecidableEq

/-- Whether the field has the need. -/
def Need.isOf : Need → Field → Bool
  | holds category, f => f.category == category
  | optional, f => f.optional

/-- The line that meets a need, in the languages where it takes one. -/
def Language.importLine? : Language → Need → Option String
  | rust, .holds .timestamp => some "use chrono::\x7bDateTime, Utc\x7d;"
  | rust, .holds .uuid => some "use uuid::Uuid;"
  | cpp, .holds .timestamp => some "#include <chrono>"
  | cpp, .holds .json => some "#include <nlohmann/json.hpp>"
  | cpp, .optional => some "#include <optional>"
  | python, .holds .timestamp => some "from datetime import datetime"
  | python, .holds .uuid => some "from uuid import UUID"
  | python, .optional => some "from typing import Optional"
  | go, .holds .timestamp => some "\t\"time\""
  | go, .holds .uuid => some "\t\"github.com/google/uuid\""
  | _, _ => none

namespace Language

variable {l : Language} {need : Need} {line : String}

/-- A need's line is an import of the language, once its blanks are taken off. -/
theorem isImport_importLine (h : l.importLine? need = some line) :
    l.isImport (line.toList.dropWhile isBlank) = true := by
  unfold importLine? at h
  split at h <;> cases h <;> decide

/-- The imports of a model, given what its fields need. -/
def modelLines (l : Language) (needs : Need → Bool) : List String :=
  match l with
  | rust =>
    (if needs (.holds .timestamp) then ["use chrono::\x7bDateTime, Utc\x7d;"] else []) ++
      "use serde::\x7bDeserialize, Serialize\x7d;" ::
        if needs (.holds .uuid) then ["use uuid::Uuid;"] else []
  | cpp =>
    "#include <cstdint>" :: "#include <string>" ::
      ((if needs .optional then ["#include <optional>"] else []) ++
        ((if needs (.holds .timestamp) then ["#include <chrono>"] else []) ++
          if needs (.holds .json) then ["#include <nlohmann/json.hpp>"] else []))
  | python =>
    (if needs (.holds .timestamp) then ["from datetime import datetime"] else []) ++
      ((if needs .optional then ["from typing import Optional"] else []) ++
        ((if needs (.holds .uuid) then ["from uuid import UUID"] else []) ++
          ["from pydantic import BaseModel, ConfigDict, Field"]))
  | go =>
    (if needs (.holds .timestamp) then ["\t\"time\""] else []) ++
      if needs (.holds .uuid) then ["\t\"github.com/google/uuid\""] else []

/-- Among the lines of a model every need's line stands at most once, and exactly where it is
    needed. -/
theorem count_modelLines (h : l.importLine? need = some line) (needs : Need → Bool) :
    (l.modelLines needs).count line = if needs need then 1 else 0 := by
  cases l with
  | rust | go =>
    rcases need with ⟨_ | _ | _ | _ | _ | _ | _⟩ | _ <;> cases h <;> rw [modelLines] <;>
      cases needs (.holds .timestamp) <;> cases needs (.holds .uuid) <;> decide
  | cpp =>
    rcases need with ⟨_ | _ | _ | _ | _ | _ | _⟩ | _ <;> cases h <;> rw [modelLines] <;>
      cases needs (.holds .timestamp) <;> cases needs (.holds .json) <;>
        cases needs .optional <;> decide
  | python =>
    rcases need with ⟨_ | _ | _ | _ | _ | _ | _⟩ | _ <;> cases h <;> rw [modelLines] <;>
      cases needs (.holds .timestamp) <;> cases needs (.holds .uuid) <;>
        cases needs .optional <;> decide

/-- The imports for the type of a key, in their order. -/
def keyLines (l : Language) (key : String) : List String :=
  [Category.uuid, .timestamp].flatMap fun category =>
    if key == l.nativeType category then (l.importLine? (.holds category)).toList else []

private theorem count_keyLines {category : Category}
    (h : l.importLine? (.holds category) = some line)
    (hl : l ≠ .cpp) (key : String) :
    (l.keyLines key).count line = if key == l.nativeType category then 1 else 0 := by
  have hcategory : category = .timestamp ∨ category = .uuid := by
    revert h hl
    cases l <;> cases category <;> simp [importLine?]
  rw [keyLines, List.flatMap_cons, List.flatMap_singleton, List.count_append]
  cases l with
  | cpp => exact absurd rfl hl
  | rust | python | go =>
    rcases hcategory with rfl | rfl <;> cases h <;> split <;> split <;> decide

end Language

namespace Blueprint

variable {b : Blueprint}

/-- The lines of an artifact by which it makes libraries known. -/
def importLines (b : Blueprint) (ls : List Line) : List String :=
  (keep Content.isImports ls).map (written b.language)

private theorem keep_fields (line : Field → List Line) (fields : List Field)
    (h : ∀ f, keep Content.isImports (line f) = []) :
    keep Content.isImports (fields.flatMap line) = [] := by
  rw [keep_flatMap, List.flatMap_eq_nil_iff]
  exact fun f _ => h f

/-- A model imports what its fields need. -/
theorem importLines_model (b : Blueprint) : b.importLines b.modelLines =
    b.language.modelLines fun need => b.fields.any need.isOf := by
  have huses : ∀ category, b.fields.any (Need.isOf (.holds category)) = b.uses category :=
    fun _ => rfl
  have hoptional : b.fields.any (Need.isOf .optional) = b.usesOptional := rfl
  unfold importLines modelLines Language.modelLines
  simp only [huses, hoptional]
  cases hl : b.language with
  | rust =>
    have hfields := keep_fields rustField b.fields fun f => by
      unfold rustField
      cases rename? f <;> rfl
    cases htimed : b.uses .timestamp <;> cases hkeyed : b.uses .uuid <;>
      simp [rustModel, hfields, opening, hl, htimed, hkeyed, onlyIf, Content.isImports, written,
        Content.written]
  | cpp =>
    have hfields := keep_fields cppField b.fields fun f => rfl
    cases htimed : b.uses .timestamp <;> cases hheld : b.uses .json <;>
      cases hoptional : b.usesOptional <;>
        simp [cppModel, hfields, opening, hl, htimed, hheld, hoptional, onlyIf, Content.isImports,
          written, Content.written]
  | python =>
    have hfields : keep Content.isImports (b.fields.map pythonField) = [] := by
      simp [pythonField, Content.isImports]
    cases htimed : b.uses .timestamp <;> cases hkeyed : b.uses .uuid <;>
      cases hoptional : b.usesOptional <;>
        simp [pythonModel, hfields, opening, hl, htimed, hkeyed, hoptional, onlyIf,
          Content.isImports, written, Content.written]
  | go =>
    have hfields := keep_fields goField b.fields fun f => rfl
    cases htimed : b.uses .timestamp <;> cases hkeyed : b.uses .uuid <;>
      simp [goModel, hfields, opening, hl, htimed, hkeyed, onlyIf, Content.isImports, written,
        Content.written, step]

private theorem rustKeyImports_eq (hl : b.language = .rust) :
    (keep Content.isImports b.keyImports).map (written .rust) =
      Language.rust.keyLines b.key.type := by
  unfold keyImports
  rw [hl]
  generalize b.key.type = key
  by_cases huuid : key = "Uuid"
  · subst huuid
    rfl
  · by_cases htimed : key = "DateTime<Utc>"
    · subst htimed
      rfl
    · simp [Language.keyLines, Language.nativeType, onlyIf, huuid, htimed]

private theorem pythonKeyImports_eq (hl : b.language = .python) :
    (keep Content.isImports b.keyImports).map (written .python) =
      Language.python.keyLines b.key.type := by
  unfold keyImports
  rw [hl]
  generalize b.key.type = key
  by_cases huuid : key = "UUID"
  · subst huuid
    rfl
  · by_cases htimed : key = "datetime"
    · subst htimed
      rfl
    · simp [Language.keyLines, Language.nativeType, onlyIf, huuid, htimed]

private theorem goKeyImports_eq (hl : b.language = .go) :
    (indent (keep Content.isImports b.keyImports)).map (written .go) =
      Language.go.keyLines b.key.type := by
  unfold keyImports
  rw [hl]
  generalize b.key.type = key
  by_cases huuid : key = "uuid.UUID"
  · subst huuid
    rfl
  · by_cases htimed : key = "time.Time"
    · subst htimed
      rfl
    · simp [Language.keyLines, Language.nativeType, onlyIf, huuid, htimed]

private theorem rustContract_imports (hl : b.language = .rust) : b.importLines (rustContract b) =
    ["use crate::model::error::DatabaseError;", "use async_trait::async_trait;"] ++
      Language.rust.keyLines b.key.type := by
  have hkey := rustKeyImports_eq hl
  simp [importLines, rustContract, opening, useSibling, hl, Content.isImports, written,
    Content.written, hkey]

private theorem rustStore_imports (hl : b.language = .rust) : b.importLines (rustStore b) =
    ["use crate::model::error::DatabaseError;", "use async_trait::async_trait;",
      "use sqlx::postgres::PgRow;", "use sqlx::\x7bPgPool, Row\x7d;", "use std::sync::Arc;"] ++
      Language.rust.keyLines b.key.type := by
  have hkey := rustKeyImports_eq hl
  have hmethod : ∀ op, keep Content.isImports (rustStoreMethod b op) = [] := by
    intro op
    cases op <;>
      simp [rustStoreMethod, rustBody, rustBound, rustAwaited, rustChecked, Content.isImports]
  simp [importLines, rustStore, rustConstant, opening, useSibling, hl, Content.isImports, written,
    Content.written, hkey, hmethod, Operation.all, List.intercalate]

private theorem rustMock_imports (hl : b.language = .rust) : b.importLines (rustMock b) =
    ["use crate::model::error::DatabaseError;", "use async_trait::async_trait;",
      "use std::collections::HashMap;", "use std::sync::\x7bArc, Mutex, MutexGuard\x7d;"] ++
      (Language.rust.keyLines b.key.type ++
        ((if b.uses .timestamp then ["    use chrono::Utc;"] else []) ++
          if b.uses .uuid then ["    use uuid::Uuid;"] else [])) := by
  have hkey := rustKeyImports_eq hl
  have hmethod : ∀ op, keep Content.isImports (rustMockMethod b op) = [] := by
    intro op
    cases op <;> simp [rustMockMethod, rustMockBody, Content.isImports]
  cases htimed : b.uses .timestamp <;> cases hkeyed : b.uses .uuid <;>
    simp [importLines, rustMock, rustMockBasics, rustTests, testImports, rustTest, opening,
      useSibling, hl, Content.isImports, written, Content.written, hkey, hmethod, htimed, hkeyed,
      onlyIf, Operation.all, List.intercalate, step]

private theorem pythonContract_imports (hl : b.language = .python) :
    b.importLines (pythonContract b) =
    ["from abc import ABC, abstractmethod", "from typing import List, Optional"] ++
      Language.python.keyLines b.key.type := by
  have hkey := pythonKeyImports_eq hl
  simp [importLines, pythonContract, opening, useSibling, hl, Content.isImports, written,
    Content.written, hkey]

private theorem pythonStore_imports (hl : b.language = .python) : b.importLines (pythonStore b) =
    "from typing import List, Optional" :: (Language.python.keyLines b.key.type ++
      ["from sqlalchemy import text", "from sqlalchemy.ext.asyncio import AsyncSession"]) := by
  have hkey := pythonKeyImports_eq hl
  have hmethod : ∀ op, keep Content.isImports (pythonStoreMethod b op) = [] := by
    intro op
    cases op <;>
      simp [pythonStoreMethod, pythonBody, pythonCall, pythonEntry, pythonCommit,
        Content.isImports]
  simp [importLines, pythonStore, pythonConstant, opening, useSibling, hl, Content.isImports,
    written, Content.written, hkey, hmethod, Operation.all, List.intercalate]

private theorem pythonMock_imports (hl : b.language = .python) : b.importLines (pythonMock b) =
    "from typing import Dict, Iterable, List, Optional" :: Language.python.keyLines b.key.type := by
  have hkey := pythonKeyImports_eq hl
  have hmethod : ∀ op, keep Content.isImports (pythonMockMethod b op) = [] := by
    intro op
    cases op <;> simp [pythonMockMethod, pythonMockBody, Content.isImports]
  simp [importLines, pythonMock, pythonMockStart, opening, useSibling, hl, Content.isImports,
    written, Content.written, hkey, hmethod, Operation.all, List.intercalate]

private theorem goContract_imports (hl : b.language = .go) : b.importLines (goContract b) =
    "\t\"context\"" :: Language.go.keyLines b.key.type := by
  have hkey := goKeyImports_eq hl
  simp [importLines, goContract, importBlock, opening, hl, Content.isImports, written,
    Content.written, hkey, step]

private theorem goStore_imports (hl : b.language = .go) : b.importLines (goStore b) =
    ["\t\"context\"", "\t\"database/sql\"", "\t\"errors\"", "\t\"fmt\"",
      "\t\"github.com/jmoiron/sqlx\""] ++ Language.go.keyLines b.key.type := by
  have hkey := goKeyImports_eq hl
  have hmethod : ∀ op, keep Content.isImports (goStoreMethod b op) = [] := by
    intro op
    cases op <;> simp [goStoreMethod, goBody, goEntry, goFailed, Content.isImports]
  simp [importLines, goStore, goConstant, importBlock, opening, hl, Content.isImports, written,
    Content.written, hkey, hmethod, step, Operation.all, List.intercalate]

private theorem goMock_imports (hl : b.language = .go) : b.importLines (goMock b) =
    ["\t\"context\"", "\t\"sync\""] ++ Language.go.keyLines b.key.type := by
  have hkey := goKeyImports_eq hl
  have hmethod : ∀ op, keep Content.isImports (goMockMethod b op) = [] := by
    intro op
    cases op <;> simp [goMockMethod, goMockBody, goReadLock, goWriteLock, Content.isImports]
  simp [importLines, goMock, importBlock, opening, hl, Content.isImports, written,
    Content.written, hkey, hmethod, step, Operation.all, List.intercalate]

/-- The imports that the type of the key needs stand among others, which meet none of its needs. -/
def Keyed (b : Blueprint) (ls : List Line) : Prop :=
  ∃ before after, b.importLines ls = before ++ (b.language.keyLines b.key.type ++ after) ∧
    ∀ category ∈ Category.all, ∀ line ∈ (b.language.importLine? (.holds category)).toList,
      line ∉ before ++ after

/-- What works on entities imports what the type of their key needs, behind lines that are the same
    for every table. -/
theorem keyed_of_lines (hl : b.language ≠ .cpp) {kind : Kind}
    (hkind : kind ∈ [Kind.contract, .store, .mock]) {ls : List Line} (h : b.lines? kind = some ls) :
    b.Keyed ls := by
  simp only [List.mem_cons, List.not_mem_nil, or_false] at hkind
  unfold Keyed
  cases hlanguage : b.language with
  | cpp => exact absurd hlanguage hl
  | rust =>
    rcases hkind with rfl | rfl | rfl <;>
      simp only [lines?, contractLines, storeLines, mockLines, hlanguage,
        Option.some.injEq] at h <;> subst h
    · exact ⟨_, [], by rw [rustContract_imports hlanguage, List.append_nil], by decide⟩
    · exact ⟨_, [], by rw [rustStore_imports hlanguage, List.append_nil], by decide⟩
    · refine ⟨_, _, rustMock_imports hlanguage, ?_⟩
      cases b.uses .timestamp <;> cases b.uses .uuid <;> decide
  | python =>
    rcases hkind with rfl | rfl | rfl <;>
      simp only [lines?, contractLines, storeLines, mockLines, hlanguage,
        Option.some.injEq] at h <;> subst h
    · exact ⟨_, [], by rw [pythonContract_imports hlanguage, List.append_nil], by decide⟩
    · exact ⟨[_], _, pythonStore_imports hlanguage, by decide⟩
    · exact ⟨[_], [], by rw [pythonMock_imports hlanguage, List.append_nil]; rfl, by decide⟩
  | go =>
    rcases hkind with rfl | rfl | rfl <;>
      simp only [lines?, contractLines, storeLines, mockLines, hlanguage,
        Option.some.injEq] at h <;> subst h
    · exact ⟨[_], [], by rw [goContract_imports hlanguage, List.append_nil]; rfl, by decide⟩
    · exact ⟨_, [], by rw [goStore_imports hlanguage, List.append_nil], by decide⟩
    · exact ⟨_, [], by rw [goMock_imports hlanguage, List.append_nil], by decide⟩

/-- Among those lines a category's import stands exactly where the key is of that category. The
    language that includes everything with the model is left out. -/
theorem Keyed.count {ls : List Line} (h : b.Keyed ls) (hl : b.language ≠ .cpp) {category : Category}
    {line : String} (hline : b.language.importLine? (.holds category) = some line) :
    (b.importLines ls).count line =
      if b.key.type == b.language.nativeType category then 1 else 0 := by
  obtain ⟨before, after, himports, hothers⟩ := h
  have hother := hothers category (Category.mem_all category) line (by simp [hline])
  rw [List.mem_append, not_or] at hother
  rw [himports, List.count_append, List.count_append, List.count_eq_zero.mpr hother.1,
    List.count_eq_zero.mpr hother.2, Nat.zero_add, Nat.add_zero, Language.count_keyLines hline hl]

end Blueprint

end AccessLayer
