import MarketSnapshot.Proofs.Backups
import MarketSnapshot.Proofs.Thresholds

namespace MarketSnapshot

namespace Text

end Text

namespace LogRecord

def ownNames : List String := reservedNames ++ [messageName, "__reduce_ex__", "__getstate__"]

def Writable (v : Value) : Prop := v.hasText = true ∧ v.display.Encodable

structure Plain (record : LogRecord) : Prop where
  attributes : ∀ name ∈ Table.keys record.extra, name ∉ ownNames
  logger : record.logger.Encodable
  component : Writable record.component
  message : Writable record.message
  exception : (record.exception.getD []).Encodable
  stack : (record.stack.getD []).Encodable

def line (record : LogRecord) : Text := record.line?.getD []

namespace Plain

variable {record : LogRecord}

theorem find?_eq_none (plain : record.Plain) {name : String} (own : name ∈ ownNames) :
    Table.find? record.extra name = none := by
  rw [Table.find?_eq_none_iff]
  exact fun member => plain.attributes name member own

theorem clash?_eq_none (plain : record.Plain) : clash? record.extra = none := by
  unfold clash?
  rw [List.find?_eq_none]
  intro name member reserved
  exact plain.attributes name member (List.mem_append_left _ (by simpa using reserved))

theorem hiding?_eq_none (plain : record.Plain) : hiding? record.extra = none :=
  plain.find?_eq_none (by decide)

theorem isCopyable (plain : record.Plain) : LogRecord.isCopyable record.extra = true := by
  have procedure : Table.find? record.extra "__reduce_ex__" = none :=
    plain.find?_eq_none (by decide)
  have state : Table.find? record.extra "__getstate__" = none := plain.find?_eq_none (by decide)
  simp [LogRecord.isCopyable, procedure, state, Table.contains]

theorem isPassedOn (plain : record.Plain) : record.isPassedOn = true := by
  simp [LogRecord.isPassedOn, plain.hiding?_eq_none, plain.message.1, plain.isCopyable]

end Plain

end LogRecord

structure Emission where
  record : LogRecord
  reached : List Nat
  rotates : Nat → Option Int

namespace Emission

def deliveries (e : Emission) : List Delivery := e.reached.map fun i => ⟨i, e.record, e.rotates i⟩

end Emission

namespace Journal

section Runs

variable (settings : LoggingSettings) (tree : FileTree)

def calls (steps : List Step) : List Call :=
  collect (fun past => call? (run settings tree past)) [] steps

theorem log_plain (journal : Journal) {handle : LogHandle} {severity : Severity} {message : Value}
    {arguments : Entries} {around : Surroundings}
    (plain : (handle.record severity message arguments around).Plain)
    (free : ¬ ("self" ∈ Table.keys arguments ∨ "msg" ∈ Table.keys arguments)) :
    let record := handle.record severity message arguments around
    let done := journal.log handle severity message arguments around
    done.2 = .ok () ∧
      if journal.passes handle.logger severity then
        Adds journal done.1 (journal.sent handle.logger record around.rotates)
          (journal.strayed handle.logger record)
      else Adds journal done.1 [] [] := by
  intro record done
  simp only [done, log_of_free free]
  exact emit_of_free journal handle.logger plain.clash?_eq_none around.rotates

variable {settings tree} {steps : List Step}

end Runs

section Views

variable {settings : LoggingSettings} {tree : FileTree} {steps : List Step}
  (plain : ∀ call ∈ calls settings tree steps, call.record.Plain)

include plain

end Views

def noSettings : LoggingSettings := ⟨[], false, []⟩

def calm : Surroundings := ⟨[], [], fun _ => none⟩

def askAt (name : String) (level : Value) : Step :=
  .request ⟨2024, 1, 2⟩ [("name", .string name), ("level", level)]

def ask (name : String) : Step := askAt name (.int 20)

end Journal

end MarketSnapshot
