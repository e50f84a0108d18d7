import SpirvMetal.Spirv.Enumerant

/-!
How a program is to be lowered: the target, optional transformations, and tables that map the
locations and bindings of the program to Metal's.
-/

namespace SpirvMetal

open Spirv (ExecutionModel)

inductive Platform
  | ios
  | macos
deriving DecidableEq

inductive VertexFormat
  | other
  | uint8
  | uint16
deriving DecidableEq

structure VertexAttribute where
  location : Nat := 0
  buffer : Nat := 0
  offset : Nat := 0
  stride : Nat := 0
  perInstance : Bool := false
  format : VertexFormat := .other
  used : Bool := false
deriving DecidableEq

structure ResourceBinding where
  stage : ExecutionModel
  descriptorSet : Nat
  binding : Nat
  buffer : Nat := 0
  texture : Nat := 0
  sampler : Nat := 0
  used : Bool := false
deriving DecidableEq

def versionNumber (major minor patch : Nat) : Nat := major * 10000 + minor * 100 + patch

structure Options where
  platform : Platform := .macos
  version : Nat := versionNumber 1 2 0
  texelBufferWidth : Nat := 4096
  auxBufferIndex : Nat := 0
  outputBufferIndex : Nat := 28
  indirectParamsBufferIndex : Nat := 29
  enablePointSize : Bool := true
  disableRasterization : Bool := false
  captureOutput : Bool := false
  swizzleTextures : Bool := false
  padFragmentOutput : Bool := false
  fixupClipSpace : Bool := false
  flipVertexY : Bool := false
  vertexAttributes : List VertexAttribute := []
  resourceBindings : List ResourceBinding := []
deriving DecidableEq

namespace Options

def pushConstantSet : Nat := 4294967295

def pushConstantBinding : Nat := 0

def auxBufferSet : Nat := 4294967294

def isIos (options : Options) : Bool := options.platform = .ios

def isMacos (options : Options) : Bool := options.platform = .macos

def setVersion (options : Options) (major minor patch : Nat) : Options :=
  { options with version := versionNumber major minor patch }

def supports (options : Options) (major minor : Nat) : Bool :=
  versionNumber major minor 0 ≤ options.version

end Options

end SpirvMetal
