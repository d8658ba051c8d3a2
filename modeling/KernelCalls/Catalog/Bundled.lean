import KernelCalls.Catalog.Basic

namespace KernelCalls.Catalog

/-!
# The bundled catalog

The names of the OpenCL C functions. Names that differ in the stem alone are listed together.

* `Group` : stems that share everything else
* `bundled` : the catalog
-/

/-- Stems that share category, slots and flags. -/
structure Group where
  stems : List String
  category : Category
  suffixes : List SuffixFamily
  bare : Bool
  sampled : Option Category

/-- Names without suffixes. -/
def Group.plain (category : Category) (stems : List String) : Group :=
  ⟨stems, category, [], true, none⟩

/-- Names whose suffixes may all be absent. -/
def Group.suffixed (category : Category) (suffixes : List SuffixFamily) (stems : List String) :
    Group :=
  ⟨stems, category, suffixes, true, none⟩

/-- Names that need a suffix. -/
def Group.stemOnly (category : Category) (suffixes : List SuffixFamily) (stems : List String) :
    Group :=
  ⟨stems, category, suffixes, false, none⟩

/-- The entries of a group. -/
def Group.entries (g : Group) : List (Text × Entry) :=
  (g.stems.map Text.ofString).map fun stem =>
    (stem, ⟨stem, g.category, g.suffixes, g.bare, g.sampled⟩)

/-- Conversions: the destination type is part of the stem. -/
def conversions : List Group :=
  [.suffixed .convert [.width, .saturation, .rounding] [
     "convert_char", "convert_uchar", "convert_short", "convert_ushort", "convert_int",
     "convert_uint", "convert_long", "convert_ulong", "convert_half", "convert_float",
     "convert_double"]]

/-- Reads, writes and queries of images. -/
def images : List Group :=
  [⟨["read_image"], .readImageUnsampled, [.format], false, some .readImageSampled⟩,
   .stemOnly .writeImage [.format] ["write_image"],
   .plain .getImageWidth ["get_image_width"],
   .plain .getImageHeight ["get_image_height"],
   .plain .getImageDepth ["get_image_depth"],
   .plain .getImageDim ["get_image_dim"],
   .plain .getImageArraySize ["get_image_array_size"],
   .plain .getImageChannelOrder ["get_image_channel_order"],
   .plain .getImageChannelDataType ["get_image_channel_data_type"],
   .plain .getImageNumSamples ["get_image_num_samples"]]

/-- Queries of the index space. -/
def workItemFunctions : List Group :=
  [.plain .getWorkDim ["get_work_dim"],
   .plain .getGlobalSize ["get_global_size"],
   .plain .getGlobalId ["get_global_id"],
   .plain .getLocalSize ["get_local_size"],
   .plain .getEnqueuedLocalSize ["get_enqueued_local_size"],
   .plain .getLocalId ["get_local_id"],
   .plain .getNumGroups ["get_num_groups"],
   .plain .getGroupId ["get_group_id"],
   .plain .getGlobalOffset ["get_global_offset"],
   .plain .getGlobalLinearId ["get_global_linear_id"],
   .plain .getLocalLinearId ["get_local_linear_id"]]

/-- Barriers and fences. -/
def synchronization : List Group :=
  [.plain .barrier ["barrier"],
   .plain .workGroupBarrier ["work_group_barrier"],
   .plain .memFence ["mem_fence"],
   .plain .readMemFence ["read_mem_fence"],
   .plain .writeMemFence ["write_mem_fence"]]

/-- Asynchronous copies and prefetching. -/
def asyncCopies : List Group :=
  [.plain .asyncWorkGroupCopy ["async_work_group_copy"],
   .plain .asyncWorkGroupStridedCopy ["async_work_group_strided_copy"],
   .plain .waitGroupEvents ["wait_group_events"],
   .plain .prefetch ["prefetch"]]

/-- The older atomic functions, each under two names. -/
def legacyAtomics : List Group :=
  [.plain .atomicAdd ["atomic_add", "atom_add"],
   .plain .atomicSub ["atomic_sub", "atom_sub"],
   .plain .atomicXchg ["atomic_xchg", "atom_xchg"],
   .plain .atomicInc ["atomic_inc", "atom_inc"],
   .plain .atomicDec ["atomic_dec", "atom_dec"],
   .plain .atomicCmpxchg ["atomic_cmpxchg", "atom_cmpxchg"],
   .plain .atomicMin ["atomic_min", "atom_min"],
   .plain .atomicMax ["atomic_max", "atom_max"],
   .plain .atomicAnd ["atomic_and", "atom_and"],
   .plain .atomicOr ["atomic_or", "atom_or"],
   .plain .atomicXor ["atomic_xor", "atom_xor"]]

/-- Atomic functions on atomic objects. -/
def c11StyleAtomics : List Group :=
  [.plain .atomicInit ["atomic_init"],
   .plain .atomicLoad ["atomic_load", "atomic_load_explicit"],
   .plain .atomicStore ["atomic_store", "atomic_store_explicit"],
   .plain .atomicExchange ["atomic_exchange", "atomic_exchange_explicit"],
   .plain .atomicCompareExchange [
     "atomic_compare_exchange_strong", "atomic_compare_exchange_strong_explicit",
     "atomic_compare_exchange_weak", "atomic_compare_exchange_weak_explicit"],
   .plain .atomicFetchAdd ["atomic_fetch_add", "atomic_fetch_add_explicit"],
   .plain .atomicFetchSub ["atomic_fetch_sub", "atomic_fetch_sub_explicit"],
   .plain .atomicFetchAnd ["atomic_fetch_and", "atomic_fetch_and_explicit"],
   .plain .atomicFetchOr ["atomic_fetch_or", "atomic_fetch_or_explicit"],
   .plain .atomicFetchXor ["atomic_fetch_xor", "atomic_fetch_xor_explicit"],
   .plain .atomicFetchMin ["atomic_fetch_min", "atomic_fetch_min_explicit"],
   .plain .atomicFetchMax ["atomic_fetch_max", "atomic_fetch_max_explicit"],
   .plain .atomicFlagTestAndSet ["atomic_flag_test_and_set", "atomic_flag_test_and_set_explicit"],
   .plain .atomicFlagClear ["atomic_flag_clear", "atomic_flag_clear_explicit"],
   .plain .atomicWorkItemFence ["atomic_work_item_fence"]]

/-- Loads and stores of vectors. -/
def vectorDataLoadStore : List Group :=
  [.stemOnly .vload [.width] ["vload"],
   .stemOnly .vstore [.width] ["vstore"],
   .suffixed .vloadHalf [.width] ["vload_half"],
   .suffixed .vstoreHalf [.width, .rounding] ["vstore_half"],
   .suffixed .vloadaHalf [.width] ["vloada_half"],
   .suffixed .vstoreaHalf [.width, .rounding] ["vstorea_half"]]

/-- Functions of sub-groups. -/
def subGroups : List Group :=
  [.plain .getSubGroupSize ["get_sub_group_size"],
   .plain .getMaxSubGroupSize ["get_max_sub_group_size"],
   .plain .getNumSubGroups ["get_num_sub_groups"],
   .plain .getSubGroupId ["get_sub_group_id"],
   .plain .getSubGroupLocalId ["get_sub_group_local_id"],
   .plain .subGroupBarrier ["sub_group_barrier"],
   .plain .subGroupAll ["sub_group_all"],
   .plain .subGroupAny ["sub_group_any"],
   .plain .subGroupBroadcast ["sub_group_broadcast"],
   .plain .subGroupReduce [
     "sub_group_reduce_add", "sub_group_reduce_min", "sub_group_reduce_max"],
   .plain .subGroupScanInclusive [
     "sub_group_scan_inclusive_add", "sub_group_scan_inclusive_min",
     "sub_group_scan_inclusive_max"],
   .plain .subGroupScanExclusive [
     "sub_group_scan_exclusive_add", "sub_group_scan_exclusive_min",
     "sub_group_scan_exclusive_max"],
   .plain .subGroupShuffle [
     "sub_group_shuffle", "sub_group_shuffle_xor", "sub_group_shuffle_up",
     "sub_group_shuffle_down"],
   .suffixed .subGroupBlockRead [.width] [
     "intel_sub_group_block_read", "intel_sub_group_block_read_ui",
     "intel_sub_group_block_read_us", "intel_sub_group_block_read_uc",
     "intel_sub_group_block_read_ul"],
   .suffixed .subGroupBlockWrite [.width] [
     "intel_sub_group_block_write", "intel_sub_group_block_write_ui",
     "intel_sub_group_block_write_us", "intel_sub_group_block_write_uc",
     "intel_sub_group_block_write_ul"]]

/-- Functions of no larger family. -/
def miscellaneous : List Group :=
  [.plain .shuffle ["shuffle"],
   .plain .shuffle2 ["shuffle2"],
   .plain .printf ["printf"]]

/-- Mathematical functions, exact and approximate. -/
def mathFunctions : List Group :=
  [.plain .math [
     "acos", "acosh", "acospi", "asin", "asinh", "asinpi", "atan", "atan2", "atanh", "atanpi",
     "atan2pi", "cbrt", "ceil", "copysign", "cos", "cosh", "cospi", "erfc", "erf", "exp", "exp2",
     "exp10", "expm1", "fabs", "fdim", "floor", "fma", "fmax", "fmin", "fmod", "fract", "frexp",
     "hypot", "ilogb", "ldexp", "lgamma", "lgamma_r", "log", "log2", "log10", "log1p", "logb",
     "mad", "maxmag", "minmag", "modf", "nan", "nextafter", "pow", "pown", "powr", "remainder",
     "remquo", "rint", "rootn", "round", "rsqrt", "sin", "sincos", "sinh", "sinpi", "sqrt", "tan",
     "tanh", "tanpi", "tgamma", "trunc"],
   .plain .nativeMath [
     "native_cos", "native_divide", "native_exp", "native_exp2", "native_exp10", "native_log",
     "native_log2", "native_log10", "native_powr", "native_recip", "native_rsqrt", "native_sin",
     "native_sqrt", "native_tan"],
   .plain .halfMath [
     "half_cos", "half_divide", "half_exp", "half_exp2", "half_exp10", "half_log", "half_log2",
     "half_log10", "half_powr", "half_recip", "half_rsqrt", "half_sin", "half_sqrt", "half_tan"]]

/-- Integer functions. -/
def integerFunctions : List Group :=
  [.plain .integer [
     "abs", "abs_diff", "add_sat", "hadd", "rhadd", "clz", "ctz", "mad_hi", "mad_sat", "mul_hi",
     "rotate", "sub_sat", "upsample", "popcount", "mad24", "mul24"]]

/-- Common functions; those shared with the integer functions are listed here. -/
def commonFunctions : List Group :=
  [.plain .common [
     "clamp", "degrees", "max", "min", "mix", "radians", "step", "smoothstep", "sign"]]

/-- Geometric functions. -/
def geometricFunctions : List Group :=
  [.plain .geometric [
     "cross", "dot", "distance", "length", "normalize", "fast_distance", "fast_length",
     "fast_normalize"]]

/-- Relational functions. -/
def relationalFunctions : List Group :=
  [.plain .relational [
     "isequal", "isnotequal", "isgreater", "isgreaterequal", "isless", "islessequal",
     "islessgreater", "isfinite", "isinf", "isnan", "isnormal", "isordered", "isunordered",
     "signbit", "any", "all", "bitselect", "select"]]

/-- All groups, in the order of the catalog. -/
def groups : List Group :=
  conversions ++ images ++ workItemFunctions ++ synchronization ++ asyncCopies ++ legacyAtomics ++
   c11StyleAtomics ++ vectorDataLoadStore ++ subGroups ++ miscellaneous ++ mathFunctions ++
   integerFunctions ++ commonFunctions ++ geometricFunctions ++ relationalFunctions

/-- The suffix tokens: widths, pixel formats, saturation and rounding. -/
def bundledTokens : TokenTable where
  width := [("2", .lanes 2), ("3", .lanes 3), ("4", .lanes 4), ("8", .lanes 8), ("16", .lanes 16)]
  format :=
    [("f", .pixels .float), ("i", .pixels .int), ("ui", .pixels .uint), ("h", .pixels .half)]
  saturation := [("_sat", .saturate)]
  rounding :=
    [("_rte", .mode .nearestEven), ("_rtz", .mode .towardZero), ("_rtp", .mode .towardPositive),
     ("_rtn", .mode .towardNegative)]

/-- The catalog of OpenCL C. -/
def bundled : Catalog where
  version := some (Text.ofString "1.2")
  entries := groups.flatMap Group.entries
  tokens := bundledTokens

end KernelCalls.Catalog
