import FrameScope.Verified.KeyedTable
import FrameScope.Verified.Loops
import FrameScope.Verified.FileSystem
import FrameScope.Verified.Runs
import FrameScope.Verified.Fallible
import FrameScope.Verified.Tiling
import FrameScope.Verified.JsonText
import FrameScope.Verified.RecordStream
import FrameScope.Verified.Segmentation
import FrameScope.Verified.Recency
import FrameScope.Ports.Core
import FrameScope.Ports.Decoder
import FrameScope.Ports.FrameIndexModel
import FrameScope.Ports.SourceBinding
import FrameScope.Ports.FrameIndexStore
import FrameScope.Ports.FrameTimeline
import FrameScope.Ports.FrameIndexState
import FrameScope.Ports.FrameIndexInvariant
import FrameScope.Ports.Indexing
import FrameScope.Ports.IndexingAttempt
import FrameScope.Ports.IndexingCall
import FrameScope.Ports.IndexingRuns
import FrameScope.Ports.IndexingProgress
import FrameScope.Ports.CompleteIndex
import FrameScope.Ports.Progressive
import FrameScope.Ports.ProgressiveAnchors
import FrameScope.Ports.ProgressiveLaw
import FrameScope.Ports.FrameCache
import FrameScope.Ports.FrameCacheLaw
import FrameScope.Ports.DiskCache
import FrameScope.Ports.DiskCacheLaw
import FrameScope.Ports.SharedRam
import FrameScope.Ports.SharedRamLaw
import FrameScope.Ports.ScrubPreview
import FrameScope.Ports.PreviewCache
import FrameScope.Ports.PreviewCacheLaw
import FrameScope.Ports.StorageClearing
import FrameScope.Ports.StorageClearingLaw
import FrameScope.Verified.Preference
import FrameScope.Ports.IndexCatalog
import FrameScope.Ports.IndexCatalogLaw
import FrameScope.Verified.ByteCodes
import FrameScope.Ports.SourceHashing
import FrameScope.Ports.Navigation
import FrameScope.Ports.NavigationExact
import FrameScope.Ports.NavigationRuns
import FrameScope.Ports.Extraction
import FrameScope.Ports.BatchExtraction
import FrameScope.Ports.BatchAlignment
import FrameScope.Ports.BatchFaultless
import FrameScope.Ports.BatchExactness
import FrameScope.Ports.BatchOrder
import FrameScope.Ports.ExtractionImage
import FrameScope.Ports.Manifest
import FrameScope.Ports.ManifestText
import FrameScope.Ports.ManifestCalls
import FrameScope.Ports.Export
import FrameScope.Ports.ExportLaw
import FrameScope.Ports.GroupNavigation
import FrameScope.Ports.GroupExport
import FrameScope.Ports.GroupExportLaw
import FrameScope.Ports.GroupFaultless
import FrameScope.Ports.GroupExactness
import FrameScope.Ports.Similarity
import FrameScope.Ports.Perceptual
import FrameScope.Ports.Grouping
import FrameScope.Ports.GroupingLaw
import FrameScope.Ports.SimilarityStore
import FrameScope.Ports.SimilarityStoreLaw
import FrameScope.Ports.SimilarityWriters
import FrameScope.Ports.SimilarityWritersLaw
import FrameScope.Ports.GlobalDescriptors
import FrameScope.Ports.GlobalStore
import FrameScope.Ports.GlobalStoreLaw
import FrameScope.Ports.OperationTokens
import FrameScope.Ports.OperationTokensLaw
import FrameScope.Ports.FramePreparation
import FrameScope.Ports.FramePreparationLaw
import FrameScope.Ports.PreviewCancellation
import FrameScope.Ports.PreviewCancellationLaw
import FrameScope.Ports.ScrubHandoff
import FrameScope.Ports.ScrubHandoffLaw
import FrameScope.Ports.PreviewRequests
import FrameScope.Ports.PreviewRequestsLaw
import FrameScope.Ports.ClosedPreviewsLaw
import FrameScope.Ports.StorageLifecycle
import FrameScope.Ports.StorageLifecycleLaw
import FrameScope.Ports.SessionController
import FrameScope.Ports.SessionControllerLaw
import FrameScope.Ports.SessionLifetimesLaw
import FrameScope.Ports.StorageGateLaw
import FrameScope.Ports.SessionNavigationLaw
import FrameScope.Ports.Microscope
import FrameScope.Ports.MicroscopeSession
import FrameScope.Ports.MicroscopeSessionLaw
import FrameScope.Ports.TimestampQueries
import FrameScope.Ports.ExtractionLaw
import FrameScope.Ports.TimestampResolution
import FrameScope.Ports.LiveScrubGate
import FrameScope.Verified.Newest
import FrameScope.Ports.MediaLibrary
import FrameScope.Ports.MediaLibraryLaw
import FrameScope.Ports.GlobalWriters
import FrameScope.Ports.GlobalWritersLaw
import FrameScope.Verified.DerivedFile
import FrameScope.Ports.SimilarityAnalysis
import FrameScope.Ports.SimilarityAnalysisLaw
import FrameScope.Ports.GroupWalk
import FrameScope.Verified.Rejection
import FrameScope.Ports.GrouperPush
import FrameScope.Verified.Checked
import FrameScope.Verified.Bilinear
import FrameScope.Ports.ConfirmationLaw
import FrameScope.Ports.VisiblePixels
import FrameScope.Ports.SamplingBounds
import FrameScope.Ports.FrameIndexRoundTrip
import FrameScope.Verified.RecordWalk
import FrameScope.Verified.Outcomes
import FrameScope.Ports.IsoBox
import FrameScope.Ports.IsoBoxBounds
import FrameScope.Ports.BoxTree
import FrameScope.Ports.BoxFields
import FrameScope.Ports.MovieWalk
import FrameScope.Ports.MovieReference
import FrameScope.Ports.OtherTracks
import FrameScope.Ports.RamPolicy
import FrameScope.Ports.RamPolicyLaw
import FrameScope.Ports.NativeSession
import FrameScope.Ports.PreviewDelivery
import FrameScope.Ports.PreviewDeliveryLaw
import FrameScope.Ports.SnapshotLabels
import FrameScope.Ports.ActiveOperation
import FrameScope.Ports.TickScaling
import FrameScope.Ports.PreviewBitmaps
import FrameScope.Ports.PreviewBitmapsLaw
import FrameScope.Ports.PreviewLeases
import FrameScope.Ports.PreviewOwnership
import FrameScope.Ports.FrameSink
import FrameScope.Ports.FrameSinkLaw
import FrameScope.Ports.VideoInspection
import FrameScope.Ports.VideoInspectionLaw
import FrameScope.Ports.BatchExportState
import FrameScope.Ports.BatchExportStateLaw
import FrameScope.Ports.IndexProgress
import FrameScope.Ports.IndexingEvents
import FrameScope.Ports.IndexProgressLaw
import FrameScope.Ports.SupersededWork
import FrameScope.Ports.SupersededWorkLaw
import FrameScope.Ports.DecodeLoop
import FrameScope.Ports.DecodeLoopLaw
import FrameScope.Ports.DecodeDeliveryLaw
import FrameScope.Ports.DescriptorInput
import FrameScope.Ports.DescriptorInputLaw
import FrameScope.Ports.PreviewTiers
import FrameScope.Ports.PreviewTiersLaw
import FrameScope.Ports.RamBudgets
import FrameScope.Ports.RamBudgetsLaw
import FrameScope.Ports.MicroscopeUi
import FrameScope.Ports.MicroscopeUiLaw
