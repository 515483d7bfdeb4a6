import Dmsfwk.ContinueBroadcast

/-!
# Storing the local bundles

The storage keeps a record of every local bundle that can be continued and
numbers them: the ids come from a table in memory, which a restart empties, and
from the largest id, which is stored beside the records.  When the ids run out
all local data is deleted and stored anew.
-/

namespace Dmsfwk

structure DmsBmStorage where
  bundleNameIdTables : Std.TreeMap UInt16 Text := ∅
  /-- The local records of the store, by the bundle name in their key. -/
  records : Std.TreeMap Text DmsBundleInfo := ∅
  /-- The public record: the largest id. -/
  maxBundleNameId : Option UInt16 := none
  /-- How often the local data was rebuilt, which the source does not count. -/
  rebuilds : ℕ := 0

/-- What the bundle manager and the accounts answer to one save. -/
structure SaveAnswers where
  bundleInfo : Option BundleInfo
  /-- One of its abilities is continuable. -/
  continuable : Bool := true
  developerId : Text := []
  /-- `GetBundleInfosForContinuation`. -/
  bundleInfos : List BundleInfo

def maxBundleId : UInt16 := 65535

def isContinuable (bundleInfo : BundleInfo) (continuable : Bool) : Bool :=
  bundleInfo.name ≠ [] && continuable

namespace DmsBmStorage

def getBundleNameId (bundleName : Text) (storage : DmsBmStorage) :
    Option UInt16 :=
  match storage.records[bundleName]? with
  | some info =>
      if info.bundleName = bundleName then some info.bundleNameId else none
  | none => none

def lastBundleNameId (storage : DmsBmStorage) : UInt16 :=
  max (storage.bundleNameIdTables.keys.getLast?.getD 0)
    (storage.maxBundleNameId.getD 0)

def addBundleNameId (bundleNameId : UInt16) (bundleName : Text)
    (storage : DmsBmStorage) : DmsBmStorage :=
  { storage with
      bundleNameIdTables :=
        storage.bundleNameIdTables.insertIfNew bundleNameId bundleName }

def createBundleNameId (rebuildLocalData : DmsBmStorage → Option DmsBmStorage)
    (bundleName : Text) (isPackageChange : Bool) (storage : DmsBmStorage) :
    Option (UInt16 × DmsBmStorage) :=
  let known :=
    if isPackageChange then getBundleNameId bundleName storage else none
  match known with
  | some bundleNameId => some (bundleNameId, storage)
  | none =>
      let last := storage.lastBundleNameId
      if storage.bundleNameIdTables.isEmpty then
        some (0, addBundleNameId 0 bundleName storage)
      else if last < maxBundleId then
        some (last + 1, addBundleNameId (last + 1) bundleName storage)
      else
        (rebuildLocalData storage).map fun rebuilt =>
          ((getBundleNameId bundleName rebuilt).getD 0, rebuilt)

def convertBundleInfo (rebuildLocalData : DmsBmStorage → Option DmsBmStorage)
    (bundleInfo : BundleInfo) (developerId : Text) (isPackageChange : Bool)
    (storage : DmsBmStorage) : Option (DmsBundleInfo × DmsBmStorage) :=
  if bundleInfo.name = [] then some ({}, storage)
  else
    (createBundleNameId rebuildLocalData bundleInfo.name isPackageChange
      storage).map fun (bundleNameId, next) =>
        (convertToDistributedBundleInfo bundleInfo developerId bundleNameId,
          next)

/-! ## All bundles -/

/-- The loop of `GetAllOldDistributionBundleInfo` over the local entries: their
ids enter the table, and the records of bundles that are not listed are
deleted. -/
def getAllOldDistributionBundleInfo (bundleNames : List Text)
    (storage : DmsBmStorage) :
    Std.TreeMap Text DmsBundleInfo × DmsBmStorage :=
  let entries := storage.records.filter fun key _ =>
    !publicRecords.isPrefixOf key
  let listed (info : DmsBundleInfo) : Bool :=
    bundleNames.contains info.bundleName && info.bundleName ≠ []
  let loaded := entries.toList.foldl
    (fun storage entry =>
      addBundleNameId entry.2.bundleNameId entry.2.bundleName storage)
    storage
  let kept := storage.records.filter fun key info =>
    publicRecords.isPrefixOf key || listed info
  (entries.filter fun _ info => listed info, { loaded with records := kept })

def collectBundleInfo (rebuildLocalData : DmsBmStorage → Option DmsBmStorage)
    (old : Std.TreeMap Text DmsBundleInfo)
    (state : List DmsBundleInfo × DmsBmStorage) (bundleInfo : BundleInfo) :
    Option (List DmsBundleInfo × DmsBmStorage) :=
  match old[bundleInfo.name]? with
  | some info =>
      if info.updateTime = bundleInfo.updateTime then some state
      else
        (convertBundleInfo rebuildLocalData bundleInfo [] true state.2).map
          fun (dmsBundleInfo, next) => (state.1 ++ [dmsBundleInfo], next)
  | none =>
      (convertBundleInfo rebuildLocalData bundleInfo [] false state.2).map
        fun (dmsBundleInfo, next) =>
          if dmsBundleInfo.bundleName = [] then (state.1, next)
          else (state.1 ++ [dmsBundleInfo], next)

def written (dmsBundleInfos : List DmsBundleInfo)
    (records : Std.TreeMap Text DmsBundleInfo) :
    Std.TreeMap Text DmsBundleInfo :=
  dmsBundleInfos.foldl (fun records info => records.insert info.bundleName info)
    records

def dmsPutBatch (dmsBundleInfos : List DmsBundleInfo)
    (storage : DmsBmStorage) : DmsBmStorage :=
  if dmsBundleInfos = [] then storage
  else { storage with
    records := written dmsBundleInfos storage.records
    maxBundleNameId := some storage.lastBundleNameId }

def updateWith (rebuildLocalData : DmsBmStorage → Option DmsBmStorage)
    (bundleInfos : List BundleInfo) (storage : DmsBmStorage) :
    Option DmsBmStorage :=
  let (old, loaded) := getAllOldDistributionBundleInfo
    (bundleInfos.map (·.name)) storage
  (bundleInfos.foldlM (collectBundleInfo rebuildLocalData old)
    ([], loaded)).map fun (dmsBundleInfos, next) =>
      dmsPutBatch dmsBundleInfos next

/-- Rebuilding updates all bundles and may come to be called again from there;
`depth` bounds how deep. -/
def rebuildLocalData (depth : ℕ) (bundleInfos : List BundleInfo)
    (storage : DmsBmStorage) : Option DmsBmStorage :=
  match depth with
  | 0 => none
  | depth + 1 =>
      updateWith (rebuildLocalData depth bundleInfos) bundleInfos
        { rebuilds := storage.rebuilds + 1 }

def updateDistributedData (depth : ℕ) (bundleInfos : List BundleInfo)
    (storage : DmsBmStorage) : Option DmsBmStorage :=
  updateWith (rebuildLocalData depth bundleInfos) bundleInfos storage

/-! ## One bundle -/

def updatePublicRecords (storage : DmsBmStorage) : DmsBmStorage :=
  if storage.bundleNameIdTables.isEmpty then storage
  else { storage with maxBundleNameId := some storage.lastBundleNameId }

def innerSaveStorageDistributeInfo (distributedBundleInfo : DmsBundleInfo)
    (storage : DmsBmStorage) : Bool × DmsBmStorage :=
  if distributedBundleInfo.bundleName = [] then (false, storage)
  else
    let records := storage.records.insert distributedBundleInfo.bundleName
      distributedBundleInfo
    (true, updatePublicRecords { storage with records := records })

def saveStorageDistributeInfo (depth : ℕ) (answers : SaveAnswers)
    (_isPackageChange : Bool) (storage : DmsBmStorage) :
    Option (Bool × DmsBmStorage) :=
  match answers.bundleInfo with
  | none => some (false, storage)
  | some bundleInfo =>
      if !isContinuable bundleInfo answers.continuable then
        some (false, storage)
      else
        (convertBundleInfo (rebuildLocalData depth answers.bundleInfos)
          bundleInfo answers.developerId false storage).map fun (info, next) =>
            innerSaveStorageDistributeInfo info next

/-- `installed`: the bundle manager still knows the bundle. -/
def deleteStorageDistributeInfo (bundleName : Text) (installed : Bool)
    (storage : DmsBmStorage) : DmsBmStorage :=
  if installed then storage
  else { storage with records := storage.records.erase bundleName }

inductive StorageEvent where
  | save (answers : SaveAnswers) (isPackageChange : Bool)
  | update (bundleInfos : List BundleInfo)
  | delete (bundleName : Text) (installed : Bool)
  | restart

/-- The answer is `none` when the operation does not return. -/
def step (depth : ℕ) (storage : DmsBmStorage) :
    StorageEvent → Option Bool × DmsBmStorage
  | .save answers isPackageChange =>
      match saveStorageDistributeInfo depth answers isPackageChange storage with
      | some (saved, next) => (some saved, next)
      | none => (none, storage)
  | .update bundleInfos =>
      match updateDistributedData depth bundleInfos storage with
      | some next => (some true, next)
      | none => (none, storage)
  | .delete bundleName installed =>
      (some true, deleteStorageDistributeInfo bundleName installed storage)
  | .restart => (some true, { storage with bundleNameIdTables := ∅ })

end DmsBmStorage

end Dmsfwk
