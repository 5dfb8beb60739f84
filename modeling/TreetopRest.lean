import TreetopRest.Lib.FallibleStateProofs
import TreetopRest.Lib.UpdateRunProofs
import TreetopRest.Lib.LruCacheProofs
import TreetopRest.Lib.ConditionalFetchProofs
import TreetopRest.Lib.TextProofs
import TreetopRest.Lib.ParallelMapProofs
import TreetopRest.Lib.SerdeProofs
import TreetopRest.Lib.QualifiedNameProofs
import TreetopRest.Lib.PercentProofs
import TreetopRest.Lib.LineScanProofs
import TreetopRest.Lib.BoundedBufferProofs
import TreetopRest.Lib.InterleavingProofs
import TreetopRest.Lib.SharedLogProofs
import TreetopRest.Lib.HandleCacheProofs
import TreetopRest.Lib.PurgeProofs
import TreetopRest.ErrorModel
import TreetopRest.CrateModel
import TreetopRest.MetadataModel
import TreetopRest.WireModel
import TreetopRest.StoreModel
import TreetopRest.StoreStepProofs
import TreetopRest.StoreRunProofs
import TreetopRest.SampleCrates
import TreetopRest.CoherenceProofs
import TreetopRest.ProvenanceProofs
import TreetopRest.RejectionProofs
import TreetopRest.ListCacheProofs
import TreetopRest.FilterProofs
import TreetopRest.StrictModeProofs
import TreetopRest.FetcherModel
import TreetopRest.RefreshProofs
import TreetopRest.BundleFetcherModel
import TreetopRest.SectionProofs
import TreetopRest.ReadinessProofs
import TreetopRest.BundleRefreshProofs
import TreetopRest.FittingProofs
import TreetopRest.ConfluenceProofs
import TreetopRest.StartupModel
import TreetopRest.StartupProofs
import TreetopRest.RequestModel
import TreetopRest.UploadModel
import TreetopRest.UploadProofs
import TreetopRest.AddressModel
import TreetopRest.AdmissionModel
import TreetopRest.AdmissionProofs
import TreetopRest.ForwardedProofs
import TreetopRest.HandlerModel
import TreetopRest.BatchProofs
import TreetopRest.StampProofs
import TreetopRest.SchemaViewProofs
import TreetopRest.ResponseModel
import TreetopRest.ResponseProofs
import TreetopRest.MetricLabelModel
import TreetopRest.MetricLabelProofs
import TreetopRest.CedarSyntaxModel
import TreetopRest.PolicyCountProofs
import TreetopRest.BearerTokenProofs
import TreetopRest.InvalidationProofs
import TreetopRest.BufferingProofs
import TreetopRest.MetricSinkModel
import TreetopRest.MetricSinkProofs
import TreetopRest.ConfigModel
import TreetopRest.ServerModel
import TreetopRest.ServerStepProofs
import TreetopRest.LaunchProofs
import TreetopRest.ServerRunProofs
import TreetopRest.OriginProofs
import TreetopRest.RecheckProofs
import TreetopRest.BundleModeProofs
import TreetopRest.ReadyProofs
import TreetopRest.ConvergenceProofs
import TreetopRest.SeparationProofs
import TreetopRest.PipelineModel
import TreetopRest.PipelineProofs
import TreetopRest.DecisionProofs
import TreetopRest.Lib.RecordedProofs
import TreetopRest.ServiceMetricsModel
import TreetopRest.ServiceMetricsProofs
import TreetopRest.UploadTallyProofs
import TreetopRest.SchemaMismatchProofs
import TreetopRest.ExchangeProofs
import TreetopRest.DigestProofs
import TreetopRest.NegotiationProofs
import TreetopRest.Lib.FormProofs
import TreetopRest.ListingProofs
import TreetopRest.OpenApiModel
import TreetopRest.OpenApiProofs
