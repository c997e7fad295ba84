/-
The two BPF programs behind the accessibility handler: grants of runtime
permissions, and transactions on the connection of an accessibility service.
-/
import UprobeStats.Accessibility
import UprobeStats.BpfFns

namespace UprobeStats.Accessibility

open Bytes Memory

/-- `recordStringArg` keeps an array of the record whole. -/
theorem length_recordStringArg {mem : Image} {ctx : PtRegs} {position : Fin 6}
    {dest : List UInt8} (hlength : dest.length = maxStringLength) :
    (recordStringArg mem ctx maxStringLength position dest).2.length = maxStringLength := by
  rw [recordStringArg, length_recordString (by decide) hlength.ge, hlength]

/-- `uprobe/grant_runtime_permission`. -/
def grantRuntimePermission (ctx : PtRegs) (mem : Image) (ktimeGetNs : UInt64)
    (reserved : Option AccessibilityEvent) : Int × Option AccessibilityEvent :=
  match reserved with
  | none => (1, none)
  | some output =>
      let package := recordStringArg mem ctx maxStringLength 0 output.packageName
      let output := { output with
        variant := 1
        timestampNs := ktimeGetNs
        packageName := package.2
        packageName_length := length_recordStringArg output.packageName_length }
      if package.1 < 0 then (0, some { output with errorCode := Int32.ofInt package.1 })
      else
        let permission := recordStringArg mem ctx maxStringLength 1 output.permissionName
        (0, some { output with
          permissionName := permission.2
          permissionName_length := length_recordStringArg output.permissionName_length
          errorCode := Int32.ofInt permission.1 })

/-- `kBinderDescriptorOffset`. -/
def kBinderDescriptorOffset : UInt64 := 8

/-- `kTargetInterfaceDescriptor`. -/
def kTargetInterfaceDescriptor : List UInt8 :=
  fill maxStringLength 0 (asBytes "android.accessibilityservice.IAccessibilityServiceConnection")

/-- `uprobe/dispatch_gesture`.  `strcmp` compares up to the terminators. -/
def dispatchGesture (ctx : PtRegs) (mem : Image) (ktimeGetNs : UInt64)
    (reserved : Option AccessibilityEvent) : Int × Option AccessibilityEvent :=
  let descriptorPtr := readPointer mem 4 (ctx.regs 1 + kBinderDescriptorOffset)
  let interfaceDescriptor :=
    (recordString mem descriptorPtr maxStringLength (List.replicate maxStringLength 0)).2
  if text interfaceDescriptor ≠ text kTargetInterfaceDescriptor then (0, none)
  else
    match reserved with
    | none => (1, none)
    | some output =>
        (0, some { output with
          errorCode := 0
          variant := 2
          timestampNs := ktimeGetNs
          uid := (ctx.regs 6).toUInt32.toInt32
          code := (ctx.regs 2).toUInt32.toInt32 })

end UprobeStats.Accessibility
