/-
The programs that report changes of processes while the daemon waits for an
app to start, and the program for tests that reports changes of the allowlist
from code that is compiled ahead of time.
-/
import UprobeStats.AppStart
import UprobeStats.TaskHandlers

namespace UprobeStats

open Memory

/-- A read of an `int` of the record. -/
def readInt (mem : Image) (address : UInt64) : Int32 :=
  (UInt32.ofNat (ofLittleEndian (bpfProbeReadUser mem 4 address).2)).toInt32

/-- The last reads of each program: the pointer to the name, and the name. -/
def ProcessChange.recordName (mem : Image) (address : UInt64) (output : ProcessChange) :
    ProcessChange where
  pid := output.pid
  uid := output.uid
  processName := (recordString mem (readPointer mem 4 address) 256 output.processName).2
  length_eq := by rw [length_recordString (by decide) output.length_eq.ge, output.length_eq]

/-- `uprobe/set_pid`. -/
def setPid (ctx : PtRegs) (mem : Image) (reserved : Option ProcessChange) :
    Int × Option ProcessChange :=
  match reserved with
  | none => (1, none)
  | some output =>
      (0, some (ProcessChange.recordName mem (ctx.regs 1 + 0xa0) { output with
        pid := (ctx.regs 2).toUInt32.toInt32
        uid := readInt mem (ctx.regs 1 + 0xf4) }))

/-- `uprobe/make_active`. -/
def makeActive (ctx : PtRegs) (mem : Image) (reserved : Option ProcessChange) :
    Int × Option ProcessChange :=
  match reserved with
  | none => (1, none)
  | some output =>
      (0, some (ProcessChange.recordName mem (ctx.regs 1 + 0xa0) { output with
        pid := readInt mem (ctx.regs 1 + 0xe4)
        uid := readInt mem (ctx.regs 1 + 0xf0) }))

/-- `uprobe/on_process_active`. -/
def onProcessActive (ctx : PtRegs) (mem : Image) (reserved : Option ProcessChange) :
    Int × Option ProcessChange :=
  match reserved with
  | none => (1, none)
  | some output =>
      let processRecordPtr := readPointer mem 4 (ctx.regs 1 + 0x8)
      (0, some (ProcessChange.recordName mem (processRecordPtr + 52) { output with
        pid := readInt mem (processRecordPtr + 524)
        uid := readInt mem (processRecordPtr + 532) }))

/-- `struct UpdateDeviceIdleTempAllowlistRecord` with its first field. -/
structure AotRecord extends UpdateDeviceIdleTempAllowlistRecord where
  methodIdentifier : UInt64

/-- `uprobe/update_device_idle_temp_allowlist` of the test programs. -/
def updateDeviceIdleTempAllowlistAot (ctx : StackRegs) (pc : UInt64) (mem : Image)
    (priorReason : List UInt8) : AotRecord where
  toUpdateDeviceIdleTempAllowlistRecord := updateDeviceIdleTempAllowlist ctx mem priorReason
  methodIdentifier := pc

end UprobeStats
