import LiteRTLM.Library.Machine
import LiteRTLM.Library.Ranking
import LiteRTLM.Library.PrefixMatching
import LiteRTLM.Engine.Status
import LiteRTLM.Engine.IoTypes
import LiteRTLM.Framework.ThreadPool
import LiteRTLM.Framework.ExecutionManager.State
import LiteRTLM.Framework.ExecutionManager.Operations
import LiteRTLM.Framework.ExecutionManager.System
import LiteRTLM.Framework.ExecutionManager.Effects
import LiteRTLM.Framework.ExecutionManager.Lifecycle
import LiteRTLM.Framework.ExecutionManager.SchedulingSafety
import LiteRTLM.Framework.ExecutionManager.Success
import LiteRTLM.Framework.ExecutionManager.Orderly
import LiteRTLM.Framework.ExecutionManager.Progress
import LiteRTLM.Core.SessionAdvanced.Session
import LiteRTLM.Core.SessionAdvanced.TurnProtocol
import LiteRTLM.Components.StopTokenDetector
import LiteRTLM.Components.StopDetection
import LiteRTLM.Library.Succeeds
import LiteRTLM.Executor.ProcessedTokens
import LiteRTLM.Executor.CompiledModelExecutor
import LiteRTLM.Executor.SuccessfulCalls
import LiteRTLM.Executor.PositionInvariant
import LiteRTLM.Library.Outcome
import LiteRTLM.Executor.LlmExecutor
import LiteRTLM.Framework.ResourceManager.State
import LiteRTLM.Framework.ResourceManager.LockedExecutor
import LiteRTLM.Framework.ResourceManager.Consistency
import LiteRTLM.Framework.ResourceManager.Calls
import LiteRTLM.Framework.ResourceManager.Isolation
import LiteRTLM.Framework.ResourceManager.PrefixPrefill
import LiteRTLM.Framework.ThreadPool.System
import LiteRTLM.Framework.ThreadPool.Delivery
import LiteRTLM.Library.FencedText
import LiteRTLM.Conversation.InternalCallback
import LiteRTLM.Conversation.StreamSegmentation
import LiteRTLM.Library.LazyPattern
import LiteRTLM.Components.ToolUse.ParserUtils
import LiteRTLM.Conversation.ModelDataProcessor.Gemma3DataProcessor
import LiteRTLM.Conversation.CallbackEffects
import LiteRTLM.Conversation.StreamedMessages
import LiteRTLM.Conversation.Conversation
import LiteRTLM.Conversation.HistoryAtomicity
import LiteRTLM.Components.Tokenizer
import LiteRTLM.Components.ConstrainedDecoding.ConstrainedDecoder
import LiteRTLM.Core.Tasks.DecodeOneStep
import LiteRTLM.Core.Tasks.Tasks
import LiteRTLM.Executor.ConstrainedDecode
import LiteRTLM.Executor.ContextBounds
import LiteRTLM.Core.Tasks.SuccessfulSteps
import LiteRTLM.Core.Tasks.CompiledModelTasks
import LiteRTLM.Core.Tasks.ContextCapacity
import LiteRTLM.Core.Tasks.ConstraintStates
import LiteRTLM.Library.ByteImage
import LiteRTLM.Schema.Core.HeaderSchema
import LiteRTLM.Util.MemoryMappedFile
import LiteRTLM.Schema.Core.LitertlmRead
import LiteRTLM.Util.LitertLmLoader
import LiteRTLM.Schema.Core.HeaderReading
import LiteRTLM.Util.LoaderSections
import LiteRTLM.Util.LoaderSafety
import LiteRTLM.Schema.Core.SectionReading
import LiteRTLM.Util.ModelFileSafety
import LiteRTLM.Executor.TokenOperations
import LiteRTLM.Executor.TokenHistoryLaws
import LiteRTLM.Library.Blocks
import LiteRTLM.Util.TensorBuffer
import LiteRTLM.Executor.CacheUtils
import LiteRTLM.Executor.SlidingWindow
import LiteRTLM.Executor.NpuExecutor
import LiteRTLM.Executor.NpuPositions
import LiteRTLM.Components.EmbeddingLookup.EmbeddingLookups
import LiteRTLM.Components.EmbeddingLookup.EmbeddingLookupManager
import LiteRTLM.Components.EmbeddingLookup.LookupRows
import LiteRTLM.Components.EmbeddingLookup.MultiModalOrder
import LiteRTLM.Executor.EmbeddingInputs
import LiteRTLM.Executor.MultiModalPrefill
import LiteRTLM.Library.Parts
import LiteRTLM.Executor.EmbeddedExecutor
import LiteRTLM.Executor.EmbeddedTokens
import LiteRTLM.Executor.TextEmbeddings
import LiteRTLM.Executor.KvCaches
import LiteRTLM.Executor.CacheRows
import LiteRTLM.Library.Frames
import LiteRTLM.Util.ExpandedBuffer
import LiteRTLM.Executor.StepBounds
import LiteRTLM.Executor.DynamicKvCache
import LiteRTLM.Executor.CacheGrowth
import LiteRTLM.Executor.CacheCapacity
import LiteRTLM.Framework.ExecutionManager.Notifications
import LiteRTLM.Framework.ExecutionManager.CallbackProtocol
import LiteRTLM.Framework.ExecutionManager.SameTable
import LiteRTLM.Framework.ExecutionManager.CreationAtomicity
import LiteRTLM.Executor.PrefillWorkGroups
import LiteRTLM.Library.RowMajor
import LiteRTLM.Library.RangeFill
import LiteRTLM.Executor.AttentionMask
import LiteRTLM.Util.DroppedTokens
import LiteRTLM.Util.ExpandedEntries
import LiteRTLM.Executor.DeletionAtomicity
import LiteRTLM.Executor.RecordedRuns
import LiteRTLM.Components.EmbeddingLookup.LookupShortage
import LiteRTLM.Executor.MissingRows
import LiteRTLM.Library.RegularPattern
import LiteRTLM.Library.MaximalMunch
import LiteRTLM.Components.ToolUse.JsonLexer
import LiteRTLM.Components.ToolUse.JsonGrammar
import LiteRTLM.Components.ToolUse.JsonParserUtils
import LiteRTLM.Components.ToolUse.WholeToolCalls
import LiteRTLM.Executor.FalliblePrefill
import LiteRTLM.Executor.PrefillStops
import LiteRTLM.Executor.FailedPrefills
import LiteRTLM.Framework.ResourceManager.SwitchFailures
import LiteRTLM.Core.SessionUtils.PromptTemplates
import LiteRTLM.Core.SessionUtils.RejectedTurns
import LiteRTLM.Core.SessionUtils.BosTokens
import LiteRTLM.Library.SlidingWindows
import LiteRTLM.Components.Preprocessor.AudioFraming
import LiteRTLM.Components.Preprocessor.FramingExactness
import LiteRTLM.Library.PartialSelection
import LiteRTLM.Library.CumulativeChoice
import LiteRTLM.Components.Sampling.SamplingCpuUtil
import LiteRTLM.Components.Sampling.SampledSet
import LiteRTLM.Components.Sampling.ScoringCpuUtil
import LiteRTLM.Core.Tasks.Score
import LiteRTLM.Core.Tasks.TeacherForcing
import LiteRTLM.Util.ExecutorDataUtil
import LiteRTLM.Core.SessionUtils.CombinedContents
import LiteRTLM.Core.SessionUtils.EmbeddingRows
import LiteRTLM.Executor.AudioExecutor
import LiteRTLM.Executor.AudioChunks
import LiteRTLM.Executor.AudioEncoderBuffers
import LiteRTLM.Library.RelatedRuns
import LiteRTLM.Executor.ClipIsolation
import LiteRTLM.Conversation.ModelDataProcessor.Gemma3InputData
import LiteRTLM.Conversation.ModelDataProcessor.Attachments
import LiteRTLM.Library.SeparatedItems
import LiteRTLM.Components.ToolUse.PythonLexer
import LiteRTLM.Components.ToolUse.PythonGrammar
import LiteRTLM.Components.ToolUse.PythonParserUtils
import LiteRTLM.Library.LatestStatus
import LiteRTLM.Components.ToolUse.PythonCalls
import LiteRTLM.Components.ToolUse.RejectedCalls
import LiteRTLM.Framework.ResourceManager.MatchingTokens
import LiteRTLM.Library.FirstMaximum
import LiteRTLM.Executor.NpuSampling
import LiteRTLM.Executor.MagicNumberConfigs
import LiteRTLM.Executor.MagicNumberTargets
import LiteRTLM.Util.SectionConstraints
import LiteRTLM.Engine.BenchmarkInfo
import LiteRTLM.Core.Tasks.BenchmarkedTasks
import LiteRTLM.Core.Tasks.TurnRecovery
import LiteRTLM.Core.Tasks.CandidateTexts
import LiteRTLM.Core.Tasks.Streaming
import LiteRTLM.Core.SessionAdvanced.RunDecode
import LiteRTLM.Library.HeldBack
import LiteRTLM.Core.Tasks.CandidateStream
import LiteRTLM.Core.Tasks.EmittedText
import LiteRTLM.Framework.ExecutionManager.QuietSteps
import LiteRTLM.Core.SessionAdvanced.PolledSession
import LiteRTLM.Core.SessionAdvanced.Cancellation
import LiteRTLM.Library.TokenTexts
import LiteRTLM.Components.ToolUse.PythonToolFormatUtils
import LiteRTLM.Components.ToolUse.PythonTokenTexts
import LiteRTLM.Components.ToolUse.PythonValues
import LiteRTLM.Components.ToolUse.PythonValueTexts
import LiteRTLM.Components.ToolUse.PythonRoundTrip
import LiteRTLM.Library.QuotedText
import LiteRTLM.Library.JoinedTokens
import LiteRTLM.Library.PaddedParts
import LiteRTLM.Schema.Core.LitertlmExport
import LiteRTLM.Schema.Py.LitertlmBuilder
import LiteRTLM.Util.WrittenModelFiles
import LiteRTLM.Schema.Py.BuiltFiles
import LiteRTLM.Core.SessionBasic.Session
import LiteRTLM.Core.SessionBasic.Sequential
import LiteRTLM.Core.SessionBasic.Delivery
import LiteRTLM.Core.SessionBasic.Cancellation
