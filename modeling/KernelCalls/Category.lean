import KernelCalls.Named

namespace KernelCalls

/-!
# Categories

The closed set of categories that recognised calls fall into.

* `Category` : the categories, with `name` and `code`
* `Category.isImageRead`, `isImageQuery`, `isImage` : the groups of image calls
-/

/-- The category of a recognised call; `unclassified` is that of every other symbol. -/
inductive Category where
  | unclassified
  | convert
  | readImageSampled
  | readImageUnsampled
  | writeImage
  | getImageWidth
  | getImageHeight
  | getImageDepth
  | getImageDim
  | getImageArraySize
  | getImageChannelOrder
  | getImageChannelDataType
  | getImageNumSamples
  | getWorkDim
  | getGlobalSize
  | getGlobalId
  | getLocalSize
  | getEnqueuedLocalSize
  | getLocalId
  | getNumGroups
  | getGroupId
  | getGlobalOffset
  | getGlobalLinearId
  | getLocalLinearId
  | barrier
  | workGroupBarrier
  | memFence
  | readMemFence
  | writeMemFence
  | asyncWorkGroupCopy
  | asyncWorkGroupStridedCopy
  | waitGroupEvents
  | prefetch
  | atomicAdd
  | atomicSub
  | atomicXchg
  | atomicInc
  | atomicDec
  | atomicCmpxchg
  | atomicMin
  | atomicMax
  | atomicAnd
  | atomicOr
  | atomicXor
  | atomicInit
  | atomicLoad
  | atomicStore
  | atomicExchange
  | atomicCompareExchange
  | atomicFetchAdd
  | atomicFetchSub
  | atomicFetchAnd
  | atomicFetchOr
  | atomicFetchXor
  | atomicFetchMin
  | atomicFetchMax
  | atomicFlagTestAndSet
  | atomicFlagClear
  | atomicWorkItemFence
  | vload
  | vstore
  | vloadHalf
  | vstoreHalf
  | vloadaHalf
  | vstoreaHalf
  | getSubGroupSize
  | getMaxSubGroupSize
  | getNumSubGroups
  | getSubGroupId
  | getSubGroupLocalId
  | subGroupBarrier
  | subGroupAll
  | subGroupAny
  | subGroupBroadcast
  | subGroupReduce
  | subGroupScanInclusive
  | subGroupScanExclusive
  | subGroupShuffle
  | subGroupBlockRead
  | subGroupBlockWrite
  | shuffle
  | shuffle2
  | printf
  | math
  | nativeMath
  | halfMath
  | integer
  | common
  | geometric
  | relational
  deriving DecidableEq, Repr, Inhabited

namespace Category

/-- All categories, in order. -/
def all : List Category :=
  [.unclassified, .convert, .readImageSampled, .readImageUnsampled, .writeImage, .getImageWidth,
    .getImageHeight, .getImageDepth, .getImageDim, .getImageArraySize, .getImageChannelOrder,
    .getImageChannelDataType, .getImageNumSamples, .getWorkDim, .getGlobalSize, .getGlobalId,
    .getLocalSize, .getEnqueuedLocalSize, .getLocalId, .getNumGroups, .getGroupId,
    .getGlobalOffset, .getGlobalLinearId, .getLocalLinearId, .barrier, .workGroupBarrier,
    .memFence, .readMemFence, .writeMemFence, .asyncWorkGroupCopy, .asyncWorkGroupStridedCopy,
    .waitGroupEvents, .prefetch, .atomicAdd, .atomicSub, .atomicXchg, .atomicInc, .atomicDec,
    .atomicCmpxchg, .atomicMin, .atomicMax, .atomicAnd, .atomicOr, .atomicXor, .atomicInit,
    .atomicLoad, .atomicStore, .atomicExchange, .atomicCompareExchange, .atomicFetchAdd,
    .atomicFetchSub, .atomicFetchAnd, .atomicFetchOr, .atomicFetchXor, .atomicFetchMin,
    .atomicFetchMax, .atomicFlagTestAndSet, .atomicFlagClear, .atomicWorkItemFence, .vload,
    .vstore, .vloadHalf, .vstoreHalf, .vloadaHalf, .vstoreaHalf, .getSubGroupSize,
    .getMaxSubGroupSize, .getNumSubGroups, .getSubGroupId, .getSubGroupLocalId, .subGroupBarrier,
    .subGroupAll, .subGroupAny, .subGroupBroadcast, .subGroupReduce, .subGroupScanInclusive,
    .subGroupScanExclusive, .subGroupShuffle, .subGroupBlockRead, .subGroupBlockWrite, .shuffle,
    .shuffle2, .printf, .math, .nativeMath, .halfMath, .integer, .common, .geometric, .relational]

/-- The name of a category. -/
def name : Category → String
  | .unclassified => "NONE"
  | .convert => "CONVERT"
  | .readImageSampled => "READ_IMAGE_SAMPLED"
  | .readImageUnsampled => "READ_IMAGE_UNSAMPLED"
  | .writeImage => "WRITE_IMAGE"
  | .getImageWidth => "GET_IMAGE_WIDTH"
  | .getImageHeight => "GET_IMAGE_HEIGHT"
  | .getImageDepth => "GET_IMAGE_DEPTH"
  | .getImageDim => "GET_IMAGE_DIM"
  | .getImageArraySize => "GET_IMAGE_ARRAY_SIZE"
  | .getImageChannelOrder => "GET_IMAGE_CHANNEL_ORDER"
  | .getImageChannelDataType => "GET_IMAGE_CHANNEL_DATA_TYPE"
  | .getImageNumSamples => "GET_IMAGE_NUM_SAMPLES"
  | .getWorkDim => "GET_WORK_DIM"
  | .getGlobalSize => "GET_GLOBAL_SIZE"
  | .getGlobalId => "GET_GLOBAL_ID"
  | .getLocalSize => "GET_LOCAL_SIZE"
  | .getEnqueuedLocalSize => "GET_ENQUEUED_LOCAL_SIZE"
  | .getLocalId => "GET_LOCAL_ID"
  | .getNumGroups => "GET_NUM_GROUPS"
  | .getGroupId => "GET_GROUP_ID"
  | .getGlobalOffset => "GET_GLOBAL_OFFSET"
  | .getGlobalLinearId => "GET_GLOBAL_LINEAR_ID"
  | .getLocalLinearId => "GET_LOCAL_LINEAR_ID"
  | .barrier => "BARRIER"
  | .workGroupBarrier => "WORK_GROUP_BARRIER"
  | .memFence => "MEM_FENCE"
  | .readMemFence => "READ_MEM_FENCE"
  | .writeMemFence => "WRITE_MEM_FENCE"
  | .asyncWorkGroupCopy => "ASYNC_WORK_GROUP_COPY"
  | .asyncWorkGroupStridedCopy => "ASYNC_WORK_GROUP_STRIDED_COPY"
  | .waitGroupEvents => "WAIT_GROUP_EVENTS"
  | .prefetch => "PREFETCH"
  | .atomicAdd => "ATOMIC_ADD"
  | .atomicSub => "ATOMIC_SUB"
  | .atomicXchg => "ATOMIC_XCHG"
  | .atomicInc => "ATOMIC_INC"
  | .atomicDec => "ATOMIC_DEC"
  | .atomicCmpxchg => "ATOMIC_CMPXCHG"
  | .atomicMin => "ATOMIC_MIN"
  | .atomicMax => "ATOMIC_MAX"
  | .atomicAnd => "ATOMIC_AND"
  | .atomicOr => "ATOMIC_OR"
  | .atomicXor => "ATOMIC_XOR"
  | .atomicInit => "ATOMIC_INIT"
  | .atomicLoad => "ATOMIC_LOAD"
  | .atomicStore => "ATOMIC_STORE"
  | .atomicExchange => "ATOMIC_EXCHANGE"
  | .atomicCompareExchange => "ATOMIC_COMPARE_EXCHANGE"
  | .atomicFetchAdd => "ATOMIC_FETCH_ADD"
  | .atomicFetchSub => "ATOMIC_FETCH_SUB"
  | .atomicFetchAnd => "ATOMIC_FETCH_AND"
  | .atomicFetchOr => "ATOMIC_FETCH_OR"
  | .atomicFetchXor => "ATOMIC_FETCH_XOR"
  | .atomicFetchMin => "ATOMIC_FETCH_MIN"
  | .atomicFetchMax => "ATOMIC_FETCH_MAX"
  | .atomicFlagTestAndSet => "ATOMIC_FLAG_TEST_AND_SET"
  | .atomicFlagClear => "ATOMIC_FLAG_CLEAR"
  | .atomicWorkItemFence => "ATOMIC_WORK_ITEM_FENCE"
  | .vload => "VLOAD"
  | .vstore => "VSTORE"
  | .vloadHalf => "VLOAD_HALF"
  | .vstoreHalf => "VSTORE_HALF"
  | .vloadaHalf => "VLOADA_HALF"
  | .vstoreaHalf => "VSTOREA_HALF"
  | .getSubGroupSize => "GET_SUB_GROUP_SIZE"
  | .getMaxSubGroupSize => "GET_MAX_SUB_GROUP_SIZE"
  | .getNumSubGroups => "GET_NUM_SUB_GROUPS"
  | .getSubGroupId => "GET_SUB_GROUP_ID"
  | .getSubGroupLocalId => "GET_SUB_GROUP_LOCAL_ID"
  | .subGroupBarrier => "SUB_GROUP_BARRIER"
  | .subGroupAll => "SUB_GROUP_ALL"
  | .subGroupAny => "SUB_GROUP_ANY"
  | .subGroupBroadcast => "SUB_GROUP_BROADCAST"
  | .subGroupReduce => "SUB_GROUP_REDUCE"
  | .subGroupScanInclusive => "SUB_GROUP_SCAN_INCLUSIVE"
  | .subGroupScanExclusive => "SUB_GROUP_SCAN_EXCLUSIVE"
  | .subGroupShuffle => "SUB_GROUP_SHUFFLE"
  | .subGroupBlockRead => "SUB_GROUP_BLOCK_READ"
  | .subGroupBlockWrite => "SUB_GROUP_BLOCK_WRITE"
  | .shuffle => "SHUFFLE"
  | .shuffle2 => "SHUFFLE2"
  | .printf => "PRINTF"
  | .math => "MATH"
  | .nativeMath => "NATIVE_MATH"
  | .halfMath => "HALF_MATH"
  | .integer => "INTEGER"
  | .common => "COMMON"
  | .geometric => "GEOMETRIC"
  | .relational => "RELATIONAL"

/-- The number of a category; categories are listed by it. -/
def code : Category → Nat
  | .unclassified => 0
  | .convert => 1
  | .readImageSampled => 10
  | .readImageUnsampled => 11
  | .writeImage => 12
  | .getImageWidth => 13
  | .getImageHeight => 14
  | .getImageDepth => 15
  | .getImageDim => 16
  | .getImageArraySize => 17
  | .getImageChannelOrder => 18
  | .getImageChannelDataType => 19
  | .getImageNumSamples => 20
  | .getWorkDim => 30
  | .getGlobalSize => 31
  | .getGlobalId => 32
  | .getLocalSize => 33
  | .getEnqueuedLocalSize => 34
  | .getLocalId => 35
  | .getNumGroups => 36
  | .getGroupId => 37
  | .getGlobalOffset => 38
  | .getGlobalLinearId => 39
  | .getLocalLinearId => 40
  | .barrier => 50
  | .workGroupBarrier => 51
  | .memFence => 52
  | .readMemFence => 53
  | .writeMemFence => 54
  | .asyncWorkGroupCopy => 60
  | .asyncWorkGroupStridedCopy => 61
  | .waitGroupEvents => 62
  | .prefetch => 63
  | .atomicAdd => 70
  | .atomicSub => 71
  | .atomicXchg => 72
  | .atomicInc => 73
  | .atomicDec => 74
  | .atomicCmpxchg => 75
  | .atomicMin => 76
  | .atomicMax => 77
  | .atomicAnd => 78
  | .atomicOr => 79
  | .atomicXor => 80
  | .atomicInit => 90
  | .atomicLoad => 91
  | .atomicStore => 92
  | .atomicExchange => 93
  | .atomicCompareExchange => 94
  | .atomicFetchAdd => 95
  | .atomicFetchSub => 96
  | .atomicFetchAnd => 97
  | .atomicFetchOr => 98
  | .atomicFetchXor => 99
  | .atomicFetchMin => 100
  | .atomicFetchMax => 101
  | .atomicFlagTestAndSet => 102
  | .atomicFlagClear => 103
  | .atomicWorkItemFence => 104
  | .vload => 110
  | .vstore => 111
  | .vloadHalf => 112
  | .vstoreHalf => 113
  | .vloadaHalf => 114
  | .vstoreaHalf => 115
  | .getSubGroupSize => 120
  | .getMaxSubGroupSize => 121
  | .getNumSubGroups => 122
  | .getSubGroupId => 123
  | .getSubGroupLocalId => 124
  | .subGroupBarrier => 125
  | .subGroupAll => 126
  | .subGroupAny => 127
  | .subGroupBroadcast => 128
  | .subGroupReduce => 129
  | .subGroupScanInclusive => 130
  | .subGroupScanExclusive => 131
  | .subGroupShuffle => 132
  | .subGroupBlockRead => 133
  | .subGroupBlockWrite => 134
  | .shuffle => 140
  | .shuffle2 => 141
  | .printf => 142
  | .math => 150
  | .nativeMath => 151
  | .halfMath => 152
  | .integer => 153
  | .common => 154
  | .geometric => 155
  | .relational => 156

instance : Named Category := ⟨"BuiltinType", all, name⟩

/-! ### Image calls -/

/-- The call reads from an image. -/
def isImageRead : Category → Bool
  | .readImageSampled | .readImageUnsampled => true
  | _ => false

/-- The call asks for a property of an image. -/
def isImageQuery : Category → Bool
  | .getImageWidth | .getImageHeight | .getImageDepth | .getImageDim | .getImageArraySize
  | .getImageChannelOrder | .getImageChannelDataType | .getImageNumSamples => true
  | _ => false

/-- The call reads, writes or queries an image. -/
def isImage (c : Category) : Bool :=
  c.isImageRead || c.isImageQuery || c == .writeImage

end Category

end KernelCalls
