/-
  Opni.Storage.Objects

  The messages that the stores keep (`pkg/apis/core/v1/core.proto`).
-/

namespace Opni.Storage

/-- `Cluster`.  Of its metadata the modules have what they read, as `data`: the labels, the
    capabilities, or anything at all. -/
structure Cluster (δ : Type) where
  id : String
  data : δ
  resourceVersion : String := ""
deriving DecidableEq

structure BootstrapToken (δ : Type) where
  data : δ
  leaseID : Int
  ttl : Int
  resourceVersion : String := ""
deriving DecidableEq

end Opni.Storage
